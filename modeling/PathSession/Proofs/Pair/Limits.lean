import PathSession.Proofs.Pair.Course
import PathSession.Proofs.Session.Outcome

/-!
# Nodes that take small messages only

How long a message may be is up to the node that reads it.  A limit is only felt when it is
exceeded, and then it ends the session that reads; so a run that no session has ended in is the same
under every limit.

* `Session.Over`: a session that has ended, and stays so;
* `Endpoint.withLimit`, `Pair.withLimit`, `Course.withLimit`: the same sides with another limit;
* `Endpoint.receive_withLimit`, `Endpoint.over_receive_of_error`: reading within the limit, and
  beyond it;
* `Course.moves_withLimit`: runs under a smaller limit are runs under the largest;
* `Course.Within`: what a side hears is within its limit.
-/

namespace PathSession

/-! ### The end of a session -/

namespace Session

/-- A session that has ended. -/
def Over (s : Session) : Prop := s.closed = true ∧ s.state = .idle

variable {s : Session}

theorem Over.handle (h : s.Over) (n : TimerToken) (e : SessionEvent) :
    (s.handle n e).session.Over := by
  rwa [(handle_of_closed h.1 n e).1]

/-- Octets that can not be framed end a session. -/
theorem over_handle_framingFailed (hidle : s.closed = true → s.state = .idle) (n : TimerToken) :
    (s.handle n .framingFailed).session.Over := by
  by_cases hc : s.closed = true
  · exact Over.handle ⟨hc, hidle hc⟩ n _
  · have hturn : s.handle n .framingFailed = (Turn.start s n).take .framingFailed := by
      simp [handle, hc]
    rw [hturn, Turn.take, Turn.session_formatError]
    exact ⟨rfl, rfl⟩

end Session

/-- Events do not bring a session back. -/
theorem Rig.over_playAll {r : Rig} (h : r.session.Over) {stimuli : List Stimulus}
    (hevents : ∀ s ∈ stimuli, ∃ e, s = .event e) : (r.playAll stimuli).1.session.Over := by
  induction stimuli generalizing r with
  | nil => exact h
  | cons s more ih =>
    obtain ⟨e, rfl⟩ := hevents s (List.mem_cons_self ..)
    exact ih (h.handle r.nextToken e) fun s' hs' => hevents s' (List.mem_cons_of_mem _ hs')

/-! ### One side -/

namespace Endpoint

variable (e : Endpoint) (data : Octets)

/-- The same side with another limit. -/
def withLimit (limit : Nat) : Endpoint := { e with reassembly := e.reassembly.withLimit limit }

@[simp] theorem wire_withLimit (limit : Nat) : (e.withLimit limit).wire = e.wire := rfl

/-- A session is told of octets by events. -/
theorem mem_stimuli {result : Except FrameError (List Message)} {s : Stimulus}
    (hs : s ∈ stimuli result) : ∃ e, s = .event e := by
  cases result with
  | ok messages =>
    obtain ⟨m, -, rfl⟩ := List.mem_map.mp hs
    exact ⟨_, rfl⟩
  | error err => exact ⟨_, List.mem_singleton.mp hs⟩

theorem limit_receive : (e.receive data).1.reassembly.limit = e.reassembly.limit :=
  Reassembly.limit_feed ..

variable {e data}

theorem over_receive (h : e.rig.session.Over) : (e.receive data).1.rig.session.Over :=
  Rig.over_playAll h fun _ => mem_stimuli

/-- Octets that do not frame well end the session that reads them. -/
theorem over_receive_of_error {err : FrameError}
    (hidle : e.rig.session.closed = true → e.rig.session.state = .idle)
    (h : (e.reassembly.feed e.rig.session.peer data).result = .error err) :
    (e.receive data).1.rig.session.Over := by
  have hsession : (e.receive data).1.rig.session =
      (e.rig.session.handle e.rig.nextToken .framingFailed).session := by
    simp only [receive, h]
    rfl
  rw [hsession]
  exact Session.over_handle_framingFailed hidle _

/-- Octets that frame well under a smaller limit are read as under a larger one. -/
theorem receive_withLimit {limit : Nat} (hle : limit ≤ e.reassembly.limit)
    {messages : List Message}
    (h : ((e.withLimit limit).reassembly.feed e.rig.session.peer data).result = .ok messages) :
    (e.withLimit limit).receive data = ((e.receive data).1.withLimit limit, (e.receive data).2) ∧
      (e.withLimit limit).hearings data = e.hearings data := by
  have hfeed := Reassembly.feed_withLimit hle h
  constructor
  · simp only [receive, withLimit, hfeed]
    rfl
  · simp only [hearings, withLimit, hfeed]

end Endpoint

/-! ### Both sides -/

namespace Pair

/-- The same pair with another limit on both sides. -/
def withLimit (p : Pair) (limit : Nat) : Pair :=
  { a := p.a.withLimit limit, b := p.b.withLimit limit }

variable (p : Pair) (limit : Nat) (x : Side)

@[simp] theorem get_withLimit : (p.withLimit limit).get x = (p.get x).withLimit limit := by
  cases x <;> rfl

theorem set_withLimit (e : Endpoint) :
    (p.withLimit limit).set x (e.withLimit limit) = (p.set x e).withLimit limit := by
  cases x <;> rfl

theorem read_withLimit {p : Pair} {limit : Nat} {x : Side} {n : Option Nat} {data : Octets}
    (hdata : (p.get x.other).wire.take (n.getD (p.get x.other).wire.length) = data)
    (h : ((p.get x).withLimit limit).receive data =
      (((p.get x).receive data).1.withLimit limit, ((p.get x).receive data).2)) :
    (p.withLimit limit).read x n = ((p.read x n).1.withLimit limit, (p.read x n).2) := by
  simp only [read, get_set_of_ne _ _ _ (Side.ne_other x), get_withLimit, Endpoint.wire_withLimit,
    hdata, h, ← set_withLimit]
  rfl

end Pair

namespace Course

/-- The same course with another limit on both sides. -/
def withLimit (c : Course) (limit : Nat) : Course := { c with pair := c.pair.withLimit limit }

variable {allowed : SessionEvent → Prop} {parties : Side → Party} {c : Course}
variable {x : Side} {limit : Nat}

/-- Limits have no say in what is permitted. -/
theorem permits_withLimit {m : Move} :
    (c.withLimit limit).Permits allowed m ↔ c.Permits allowed m := by
  cases m <;> simp only [Permits, withLimit, Pair.get_withLimit] <;> rfl

/-- A move changes no limit. -/
theorem limit_move (c : Course) (m : Move) (x : Side) :
    ((c.move m).pair.get x).reassembly.limit = (c.pair.get x).reassembly.limit := by
  cases m with
  | start y => cases x <;> cases y <;> rfl
  | event y e => cases x <;> cases y <;> rfl
  | read y n =>
    obtain ⟨hself, -, tail, -, hother⟩ := read_eq c y n
    show ((c.pair.read y n).1.get x).reassembly.limit = _
    by_cases hx : x = y
    · subst hx
      rw [hself, Endpoint.limit_receive]
    · obtain rfl := Side.eq_other hx
      rw [hother]

/-- A session that has ended stays so. -/
theorem over_move {m : Move} (hm : c.Permits allowed m) (h : (c.pair.get x).rig.session.Over) :
    ((c.move m).pair.get x).rig.session.Over := by
  have hplay : ∀ (y : Side) (stimulus : Stimulus),
      (y = x → ((c.pair.get x).rig.playAll [stimulus]).1.session.Over) →
      ((c.pair.play y stimulus).1.get x).rig.session.Over := by
    intro y stimulus hself
    by_cases hx : x = y
    · subst hx
      have hget : (c.pair.play x stimulus).1.get x = ((c.pair.get x).playAll [stimulus]).1 :=
        Pair.get_set_self ..
      rw [hget]
      exact hself rfl
    · have hget : (c.pair.play y stimulus).1.get x = c.pair.get x := Pair.get_set_of_ne _ _ _ hx
      rwa [hget]
  cases m with
  | start y =>
    refine hplay y .start ?_
    -- a session that has not started is not closed
    rintro rfl
    have hc := h.1
    rw [hm.2] at hc
    cases hc
  | event y e =>
    refine hplay y (.event e) fun _ => Rig.over_playAll h ?_
    simp
  | read y n =>
    obtain ⟨hself, -, tail, -, hother⟩ := read_eq c y n
    show ((c.pair.read y n).1.get x).rig.session.Over
    by_cases hx : x = y
    · subst hx
      rw [hself]
      exact Endpoint.over_receive h
    · obtain rfl := Side.eq_other hx
      rwa [hother]

theorem over_moves {ms : List Move} (hms : c.PermitsAll allowed ms)
    (h : (c.pair.get x).rig.session.Over) : ((c.moves ms).pair.get x).rig.session.Over := by
  induction ms generalizing c with
  | nil => exact h
  | cons m more ih => exact ih hms.2 (over_move hms.1 h)

/-! ### Runs under a smaller limit -/

/-- A move that ends no session under a smaller limit is the same under a larger one. -/
theorem move_withLimit (hle : ∀ x, limit ≤ (c.pair.get x).reassembly.limit)
    (hidle : ∀ x, (c.pair.get x).rig.session.closed = true →
      (c.pair.get x).rig.session.state = .idle) (m : Move)
    (hgoes : ∀ x, ¬ (((c.withLimit limit).move m).pair.get x).rig.session.Over) :
    (c.withLimit limit).move m = (c.move m).withLimit limit := by
  cases m with
  | start x => cases x <;> rfl
  | event x e => cases x <;> rfl
  | read x n =>
    have htaken : (c.withLimit limit).taken x n = c.taken x n := by cases x <;> rfl
    have hget : (c.withLimit limit).pair.get x = (c.pair.get x).withLimit limit :=
      Pair.get_withLimit ..
    cases hfed : (((c.pair.get x).withLimit limit).reassembly.feed (c.pair.get x).rig.session.peer
        (c.taken x n)).result with
    | error err =>
      -- the reader would have ended its session
      have hself : ((c.withLimit limit).move (.read x n)).pair.get x = _ := (read_eq _ x n).1
      rw [htaken, hget] at hself
      refine absurd ?_ (hgoes x)
      rw [hself]
      exact Endpoint.over_receive_of_error (hidle x) hfed
    | ok messages =>
      obtain ⟨hreceive, hhearings⟩ := Endpoint.receive_withLimit (hle x) hfed
      have hread : (c.withLimit limit).pair.read x n =
          ((c.pair.read x n).1.withLimit limit, (c.pair.read x n).2) :=
        Pair.read_withLimit rfl hreceive
      simp only [move, htaken, hget, hhearings, hread]
      rfl

/-- A run under a smaller limit, at the end of which no session is idle, is the same under the
largest limit. -/
theorem moves_withLimit (hallowed : ∀ e, allowed e → e.Ambient) (hle : limit ≤ Message.maxSize)
    (hrun : Run allowed parties c) {ms : List Move}
    (hms : (c.withLimit limit).PermitsAll allowed ms)
    (hgoes : ∀ x, (((c.withLimit limit).moves ms).pair.get x).rig.session.state ≠ .idle) :
    c.PermitsAll allowed ms ∧ (c.withLimit limit).moves ms = (c.moves ms).withLimit limit := by
  induction ms generalizing c with
  | nil => exact ⟨trivial, rfl⟩
  | cons m more ih =>
    have hcarries := hrun.carries hallowed
    obtain ⟨r, hr⟩ := hcarries.exchange.agree hallowed
    have hmove : (c.withLimit limit).move m = (c.move m).withLimit limit := by
      refine move_withLimit (fun x => ?_) (fun x hc => ?_) m fun x hover => ?_
      · rw [hcarries.limit x]
        exact hle
      · exact ((hr.told x).of_closed hc).2.1
      · exact hgoes x (over_moves hms.2 hover).2
    have hm := permits_withLimit.mp hms.1
    have hrest := hms.2
    rw [hmove] at hrest
    obtain ⟨hpermits, hmoves⟩ := ih (hrun.move m hm) hrest fun x => by
      rw [← hmove]
      exact hgoes x
    refine ⟨⟨hm, hpermits⟩, ?_⟩
    show ((c.withLimit limit).move m).moves more = _
    rw [hmove]
    exact hmoves

/-! ### What is heard under a limit -/

/-- Both sides have a limit, and have heard nothing beyond it. -/
structure Within (limit : Nat) (c : Course) : Prop where
  limits : ∀ x, (c.pair.get x).reassembly.limit = limit
  heard : ∀ x, ∀ m ∈ (c.account x).messages, m.Fits limit

theorem within_init (parties : Side → Party) (limit : Nat) :
    Within limit ((init parties).withLimit limit) where
  limits x := by cases x <;> rfl
  heard _ := nofun

theorem Within.move (h : Within limit c) (m : Move) : Within limit (c.move m) := by
  refine ⟨fun x => (limit_move c m x).trans (h.limits x), ?_⟩
  have hrecord : ∀ (y : Side) (result : Pair × Response) (hearings : List Hearing),
      (∀ m ∈ hearings.map Hearing.message, m.Fits limit) →
      ∀ x, ∀ m ∈ ((c.record y result hearings).account x).messages, m.Fits limit := by
    intro y result hearings hnew x m hm
    by_cases hx : x = y
    · subst hx
      simp only [record, Function.update_self, Account.messages, List.map_append,
        List.mem_append] at hm
      exact hm.elim (h.heard x m) (hnew m)
    · simp only [record, Function.update_of_ne hx] at hm
      exact h.heard x m hm
  cases m with
  | start y => exact hrecord y _ [] (by simp)
  | event y e => exact hrecord y _ [] (by simp)
  | read y n =>
    refine hrecord y _ _ ?_
    unfold Endpoint.hearings
    split
    · rename_i messages hfed
      rw [Rig.message_hearings, ← h.limits y]
      exact Reassembly.fits_of_feed hfed
    · simp

theorem Within.moves (h : Within limit c) (ms : List Move) : Within limit (c.moves ms) := by
  induction ms generalizing c with
  | nil => exact h
  | cons m more ih => exact ih (h.move m)

end Course

end PathSession
