import PathSession.Config.Basic
import PathSession.Engine.Calls
import PathSession.Proofs.Pair.Delivery
import PathSession.Proofs.Pair.Limits

/-!
# Traffic between two sessions that are up

A call that hands over a message checks that the length field can describe it, and no more.  What
the peer checks when it reads the message is another matter: it has a limit of its own, and it
reads an ERROR.  A pair of sessions stays up under any traffic that passes both checks, and can be
brought down by what passes the first one only.

* `Message.Sound`, `Message.Harmless`: messages that pass the second check;
* `Speaker.Candid`: what a session says while it is up;
* `Course.Calm`: the invariant of a pair that stays up;
* `Course.Traffic`: messages are handed over and octets are read;
* `Course.stays_up_under_sound_traffic`: sessions stay up while that goes on;
* `Course.brought_down_by_unsound`: what messages do that are not sound.
-/

namespace PathSession

/-! ### Messages -/

namespace Message

/-- A message that is within a limit and, if it is an ERROR, can be read as one. -/
structure Sound (limit : Nat) (m : Message) : Prop where
  size_le : m.size ≤ limit
  readable : m.kind? = some .error → ∃ e proposal, m.content = .ok (.error e proposal)

/-- A message that a session that is up can frame and read, and that does not tell it to close. -/
structure Harmless (limit : Nat) (m : Message) : Prop where
  fits : m.Fits limit
  content : ∃ c, m.content = .ok c ∧ c.kind ≠ .close

/-- A message that a collaborator has handed over by a call that succeeded. -/
def Accepted (m : Message) : Prop :=
  ∃ (d : Desk) (peer : PeerAddress) (kind : MessageKind) (body : Octets),
    (d.deliver peer kind body).2 = .ok () ∧ m = make kind body

variable {limit : Nat} {m : Message}

theorem harmless_keepaliveMessage (h : Header.size ≤ limit) : keepaliveMessage.Harmless limit where
  fits := fits_make h (by decide)
  content := ⟨.keepalive, content_keepaliveMessage, nofun⟩

/-- The engine takes what the length field can describe. -/
theorem Accepted.exists_make? (h : m.Accepted) : ∃ kind body, make? kind body = .ok m := by
  obtain ⟨d, peer, kind, body, hok, rfl⟩ := h
  refine ⟨kind, body, ?_⟩
  unfold Desk.deliver at hok
  cases hmake : make? kind body with
  | error o =>
    rw [hmake] at hok
    cases hok
  | ok m => rw [make_of_make? hmake]

/-- What a role hands on to the network is harmless if it is sound. -/
theorem Sound.harmless {role : Role} {kind : MessageKind} {body : Octets} (h : m.Sound limit)
    (hmake : make? kind body = .ok m) (hf : role.forwards m = true) : m.Harmless limit := by
  have hfits := fits_of_make? hmake
  refine ⟨⟨hfits.version_lt, hfits.flags_lt, h.size_le, hfits.size_le_maxSize⟩, ?_⟩
  obtain rfl := make_of_make? hmake
  cases kind with
  | request | response | notification => exact ⟨_, content_make .., nofun⟩
  | error =>
    obtain ⟨e, proposal, he⟩ := h.readable (kind?_make ..)
    exact ⟨_, he, nofun⟩
  | opening | keepalive | close => simp [Role.forwards, Message.kind] at hf

end Message

/-! ### What a session says while it is up -/

/-- A session that is up sends a local message if its role hands it on, and nothing else. -/
theorem Turn.of_mem_sent_fromLocal {t : Turn} (ha : t.actions = [])
    (hs : t.session.state = .sessionUp) {m m' : Message}
    (hm' : m' ∈ Action.sent (t.fromLocal m).actions) :
    m' = m ∧ t.session.role.forwards m = true := by
  have hactions : (t.fromLocal m).actions =
      if t.session.role.forwards m = true then [.send m] else [] := by
    rw [fromLocal, if_pos hs, actions_routeFromLocal, ha, List.nil_append]
  rw [hactions] at hm'
  by_cases hf : t.session.role.forwards m = true
  · rw [if_pos hf] at hm'
    exact ⟨List.mem_singleton.mp hm', hf⟩
  · rw [if_neg hf] at hm'
    cases hm'

/-- A session that is up sends keepalives and what its role hands on, unless it closes. -/
theorem Session.sent_of_up {s : Session} (hphase : s.Phase) (hc : s.closed = false)
    (hs : s.state = .sessionUp) (n : TimerToken) (e : SessionEvent) :
    ∀ m ∈ Action.sent (s.handle n e).actions,
      m = keepaliveMessage ∨ s.role.forwards m = true ∨
        (s.handle n e).session.closed = true := by
  have hturn : s.handle n e = (Turn.start s n).take e := by simp [handle, hc]
  have hambient : e.Ambient → (∀ m, e ≠ .fromLocal m) →
      ∀ m ∈ Action.sent (s.handle n e).actions,
        m = keepaliveMessage ∨ s.role.forwards m = true ∨
          (s.handle n e).session.closed = true := by
    intro he hlocal m hm
    rw [hturn] at hm ⊢
    rcases Turn.take_ambient (t := Turn.start s n) rfl hphase hc he with ht | ht | ⟨hs', -⟩
    · rcases (ht.sent m hm).2.2 with h | h
      · exact .inl h
      · exact absurd h (hlocal m)
    · exact .inr (.inr ht.closed)
    · exact absurd (hs.symm.trans hs') (by decide)
  cases e with
  | network m =>
    intro m' hm'
    rw [hturn] at hm' ⊢
    have hup : (Turn.start s n).take (.network m) = (Turn.start s n).inSessionUp m := by
      simp [Turn.take, Turn.fromNetwork, hs]
    rw [hup] at hm' ⊢
    rcases Turn.inSessionUp_cases (t := Turn.start s n) rfl m with ht | ⟨ht, -⟩
    · rcases (ht.sent m' hm').2.2 with h | h
      · exact .inl h
      · cases h
    · exact .inr (.inr ht.closed)
  | framingFailed =>
    intro m hm
    rw [hturn, Turn.take, Turn.session_formatError]
    exact .inr (.inr rfl)
  | fromLocal m =>
    intro m' hm'
    rw [hturn] at hm'
    obtain ⟨rfl, hf⟩ := Turn.of_mem_sent_fromLocal (t := Turn.start s n) rfl hs hm'
    exact .inr (.inl hf)
  | accepted | connectRequested | transportUp | transportFailed | connectionLost | timerExpired
  | closeRequested => exact hambient trivial (by simp)

namespace Speaker

/-- Since it came up, a speaker has sent keepalives and what its role hands on, unless it is
closed. -/
def Candid (v : Speaker) : Prop :=
  ∀ m ∈ Action.sent (Action.sinceUp v.account.actions),
    m = keepaliveMessage ∨ v.session.role.forwards m = true ∨ v.session.closed = true

variable {v : Speaker} {party : Party} {given : List Message}

theorem Candid.of_not_up (h : .established ∉ v.account.actions) : v.Candid := by
  intro m hm
  rw [Action.sinceUp_eq_nil h] at hm
  cases hm

theorem Candid.start (hrelay : Relay party given v) (hf : v.session.Fresh) :
    (v.play .start).Candid := by
  refine .of_not_up ?_
  have hnot : .established ∉ v.account.actions := by
    rw [← hrelay.up hf.2, hf.1]
    decide
  have hcalm := Session.calm_start hf.2 v.rig.nextToken
  have hquiet : .established ∉ (v.respond .start).actions :=
    Action.established_notMem_of_quiet hcalm.quiet
  rw [play, actions_after, List.mem_append]
  exact not_or_intro hnot hquiet

theorem Candid.take (h : v.Candid) (hrelay : Relay party given v) (hphase : v.session.Phase)
    (e : SessionEvent) : (v.take e).Candid := by
  intro m hm
  by_cases hc : v.session.closed = true
  · have hclosed := Session.handle_of_closed hc v.rig.nextToken e
    refine .inr (.inr ?_)
    show (v.session.handle _ e).session.closed = true
    rw [hclosed.1, hc]
  · replace hc : v.session.closed = false := by simpa using hc
    have hout := Session.outcome_handle hphase hc v.rig.nextToken e
    change Session.Outcome _ _ e (v.respond (.event e)) at hout
    have hrole : (v.take e).session.role = v.session.role := hout.role
    rw [Speaker.take, actions_after] at hm
    rw [hrole]
    by_cases hs : v.session.state = .sessionUp
    · rw [Action.sinceUp_of_mem ((hrelay.up hc).mp hs), Action.sent_append, List.mem_append] at hm
      rcases hm with hm | hm
      · refine (h m hm).imp_right (Or.imp_right fun hc' => ?_)
        rw [hc] at hc'
        cases hc'
      · exact Session.sent_of_up hphase hc hs v.rig.nextToken e m hm
    · -- whoever comes up now sends its queue
      have hnot : .established ∉ v.account.actions := fun he => hs ((hrelay.up hc).mpr he)
      rw [Action.sinceUp_of_notMem hnot] at hm
      cases hout with
      | goesOn ht =>
        rw [Action.sinceUp_eq_nil ht.established] at hm
        cases hm
      | comesUp _ ht =>
        obtain ⟨before, hactions, hquiet⟩ := ht.actions
        rw [hactions, Action.sinceUp_of_notMem (Action.established_notMem_of_quiet hquiet),
          Action.sinceUp_established, Action.sent_established, Action.sent_map_send] at hm
        exact .inr (.inl (List.mem_filter.mp hm).2)
      | ends _ ht => exact .inr (.inr ht.closed)

end Speaker

namespace Course

variable {allowed : SessionEvent → Prop} {parties : Side → Party} {c : Course}

/-- What holds of the speakers at first and is kept by starting and by every event holds of the
speakers in every run. -/
theorem Run.speaker_induction (hallowed : ∀ e, allowed e → e.Ambient)
    (h : Run allowed parties c) {P : Side → Speaker → Prop}
    (init : ∀ x, P x (.init ((parties x).session x.initiates)))
    (start : ∀ x v, v.session.Fresh → P x v → P x (v.play .start))
    (take : ∀ x v e, v.session.Phase → P x v → P x (v.take e)) (x : Side) :
    P x (c.speaker x) := by
  induction h generalizing x with
  | init =>
    have hspeaker : (Course.init parties).speaker x = .init ((parties x).session x.initiates) := by
      cases x <;> rfl
    rw [hspeaker]
    exact init x
  | @move c h m hm ih =>
    have hcarries := h.carries hallowed
    obtain ⟨r, hr⟩ := hcarries.exchange.agree hallowed
    have hphase : ∀ y, ¬ (c.speaker y).session.Fresh → (c.speaker y).session.Phase := fun y hf =>
      (hr.told y).phase fun hu => hf ((hr.told y).fresh_iff.mpr hu)
    have hupdate : ∀ y v, P y v → P x (Function.update c.speaker y v x) := by
      intro y v hv
      by_cases hx : x = y
      · subst hx
        rwa [Function.update_self]
      · rw [Function.update_of_ne hx]
        exact ih x
    cases m with
    | start y =>
      rw [Course.move, speaker_play]
      exact hupdate y _ (start y _ hm (ih y))
    | event y e =>
      have hnetwork : ∀ m, e ≠ .network m := by
        rintro m rfl
        exact hallowed _ hm.2
      rw [Course.move, speaker_play, Speaker.play_eq_take hnetwork]
      exact hupdate y _ (take y _ e (hphase y hm.1) (ih y))
    | read y n =>
      obtain ⟨now, hspeaker⟩ := hcarries.exists_hearAll hallowed y n
      rw [hspeaker]
      refine hupdate y _ (Speaker.hearAll_induction (fun v m => take y v (.network m)) ?_ (ih y) now)
      exact hphase y (hcarries.not_fresh hallowed hm)

/-- In every run, a session that is up has sent keepalives and what its role hands on. -/
theorem Run.candid (hallowed : ∀ e, allowed e → e.Ambient) (h : Run allowed parties c)
    (x : Side) : (c.speaker x).Candid ∧ (c.speaker x).session.role = (parties x).role := by
  have hboth := h.speaker_induction hallowed
    (P := fun x v => v.Candid ∧ ∃ given, Relay (parties x) given v)
    (fun x => ⟨.of_not_up nofun, _, .init _ _⟩)
    (fun x v hf hv => by
      obtain ⟨-, given, hrelay⟩ := hv
      exact ⟨.start hrelay hf, _, hrelay.start hf⟩)
    (fun x v e hphase hv => by
      obtain ⟨hcandid, given, hrelay⟩ := hv
      exact ⟨hcandid.take hrelay hphase e, _, hrelay.take hphase e⟩) x
  obtain ⟨hcandid, given, hrelay⟩ := hboth
  exact ⟨hcandid, hrelay.role⟩

end Course

/-! ### A session that stays up -/

/-- A session that was up is still up, and what it said meanwhile is harmless. -/
structure Session.StaysUp (limit : Nat) (s s' : Session) (said : List Message) : Prop where
  up : s'.state = .sessionUp
  still : s'.closed = false
  peer : s'.peer = s.peer
  harmless : ∀ m ∈ said, m.Harmless limit

namespace Rig

variable {limit : Nat} {r : Rig}

theorem staysUp_of_rests {e : SessionEvent} (hs : r.session.state = .sessionUp)
    (hc : r.session.closed = false) (ht : Rests r.session e (r.session.handle r.nextToken e))
    (hsaid : ∀ m ∈ Action.sent (r.session.handle r.nextToken e).actions, m.Harmless limit) :
    let next := r.play (.event e)
    r.session.StaysUp limit next.1.session (Action.sent next.2.actions) where
  up := (congrArg Standing.state ht.standing).trans hs
  still := ht.still.trans hc
  peer := congrArg (fun k => k.party.peer) ht.terms
  harmless := hsaid

/-- A session that is up hands on a local message if its role does. -/
theorem staysUp_fromLocal (hs : r.session.state = .sessionUp) (hc : r.session.closed = false)
    {m : Message} (hm : r.session.role.forwards m = true → m.Harmless limit) :
    let next := r.play (.event (.fromLocal m))
    r.session.StaysUp limit next.1.session (Action.sent next.2.actions) := by
  have hturn : r.session.handle r.nextToken (.fromLocal m) =
      (Turn.start r.session r.nextToken).fromLocal m := by
    simp [Session.handle, hc, Turn.take]
  have ht := Turn.rests_fromLocal (t := Turn.start r.session r.nextToken) rfl m
  rw [Turn.session_start, ← hturn] at ht
  refine staysUp_of_rests hs hc ht fun m' hm' => ?_
  rw [hturn] at hm'
  obtain ⟨rfl, hf⟩ := Turn.of_mem_sent_fromLocal (t := Turn.start r.session r.nextToken) rfl hs hm'
  exact hm hf

/-- A session that is up can take harmless messages. -/
theorem staysUp_network (hsize : Header.size ≤ limit) (hs : r.session.state = .sessionUp)
    (hc : r.session.closed = false) {m : Message} (hm : m.Harmless limit) :
    let next := r.play (.event (.network m))
    r.session.StaysUp limit next.1.session (Action.sent next.2.actions) := by
  have hturn : r.session.handle r.nextToken (.network m) =
      (Turn.start r.session r.nextToken).inSessionUp m := by
    simp [Session.handle, hc, Turn.take, Turn.fromNetwork, hs]
  obtain ⟨c, hcontent, hkind⟩ := hm.content
  have ht : Rests r.session (.network m) (r.session.handle r.nextToken (.network m)) := by
    rw [hturn]
    rcases Turn.inSessionUp_cases (t := Turn.start r.session r.nextToken) rfl m with ht | ⟨-, hall⟩
    · exact ht
    · exact absurd (hall c hcontent) hkind
  refine staysUp_of_rests hs hc ht fun m' hm' => ?_
  rcases (ht.sent m' hm').2.2 with rfl | h
  · exact Message.harmless_keepaliveMessage hsize
  · cases h

theorem staysUp_playAll (hsize : Header.size ≤ limit) (hs : r.session.state = .sessionUp)
    (hc : r.session.closed = false) {messages : List Message}
    (hm : ∀ m ∈ messages, m.Harmless limit) :
    let next := r.playAll (messages.map fun m => .event (.network m))
    r.session.StaysUp limit next.1.session (Action.sent next.2.actions) := by
  induction messages generalizing r with
  | nil => exact ⟨hs, hc, rfl, nofun⟩
  | cons m more ih =>
    have hfirst := staysUp_network hsize hs hc (hm m (List.mem_cons_self ..))
    have hmore := ih hfirst.up hfirst.still fun m' hm' => hm m' (List.mem_cons_of_mem _ hm')
    refine ⟨hmore.up, hmore.still, hmore.peer.trans hfirst.peer, fun m' hm' => ?_⟩
    replace hm' := (Action.sent_append _ _) ▸ hm'
    rcases List.mem_append.mp hm' with hm' | hm'
    · exact hfirst.harmless m' hm'
    · exact hmore.harmless m' hm'

end Rig

namespace Course

/-- Both sessions are up, and everything on its way is harmless. -/
structure Calm (limit : Nat) (c : Course) : Prop where
  size_le : Header.size ≤ limit
  limits : ∀ x, (c.pair.get x).reassembly.limit = limit
  up : ∀ x, (c.pair.get x).rig.session.state = .sessionUp
  still : ∀ x, (c.pair.get x).rig.session.closed = false
  flight : ∀ x, ∃ flight : List Message, (∀ m ∈ flight, m.Harmless limit) ∧
    (c.pair.get x).pending ++ (c.pair.get x.other).wire = flight.flatMap Message.encode

/-- What happens while messages are handed over and octets are read. -/
def Traffic : Move → Prop
  | .event _ (.fromLocal m) => m.Accepted
  | .read _ _ => True
  | _ => False

namespace Calm

variable {c : Course} {limit : Nat} (h : Calm limit c)
include h

/-- A side that stays up and says nothing harmful leaves the pair calm. -/
theorem record {x : Side} {result : Pair × Response} {hearings : List Hearing}
    (hself : (c.pair.get x).rig.session.StaysUp limit (result.1.get x).rig.session
      (Action.sent result.2.actions))
    (hlimit : (result.1.get x).reassembly.limit = limit)
    (hwire : (result.1.get x).wire = (c.pair.get x).wire ++ Action.written result.2.actions)
    (hother : ∃ tail, result.1.get x.other = { c.pair.get x.other with wire := tail })
    (hflight : ∃ flight : List Message, (∀ m ∈ flight, m.Harmless limit) ∧
      (result.1.get x).pending ++ (result.1.get x.other).wire = flight.flatMap Message.encode) :
    Calm limit (c.record x result hearings) := by
  obtain ⟨tail, hother⟩ := hother
  have hcases : ∀ {P : Side → Prop}, P x → P x.other → ∀ y, P y := by
    intro P hx hx' y
    by_cases hy : y = x
    · rwa [hy]
    · rwa [Side.eq_other hy]
  refine ⟨h.size_le, hcases hlimit ?_, hcases hself.up ?_, hcases hself.still ?_,
    hcases hflight ?_⟩
  · show (result.1.get x.other).reassembly.limit = limit
    rw [hother]
    exact h.limits x.other
  · show (result.1.get x.other).rig.session.state = .sessionUp
    rw [hother]
    exact h.up x.other
  · show (result.1.get x.other).rig.session.closed = false
    rw [hother]
    exact h.still x.other
  · -- what was said joins what is on its way to the other side
    obtain ⟨flight, hharmless, hencode⟩ := h.flight x.other
    rw [Side.other_other] at hencode
    refine ⟨flight ++ Action.sent result.2.actions, fun m hm => ?_, ?_⟩
    · exact (List.mem_append.mp hm).elim (hharmless m) (hself.harmless m)
    · show (result.1.get x.other).pending ++ (result.1.get x.other.other).wire = _
      rw [Side.other_other, hwire, hother, List.flatMap_append, ← hencode, ← Action.written_eq,
        List.append_assoc]
      rfl

/-- A local message that is harmless if the role of the side sends it. -/
theorem fromLocal {x : Side} {m : Message}
    (hm : (c.pair.get x).rig.session.role.forwards m = true → m.Harmless limit) :
    Calm limit (c.move (.event x (.fromLocal m))) := by
  have hself : (c.pair.play x (.event (.fromLocal m))).1.get x =
      ((c.pair.get x).playAll [.event (.fromLocal m)]).1 := Pair.get_set_self ..
  have hother : (c.pair.play x (.event (.fromLocal m))).1.get x.other = c.pair.get x.other :=
    Pair.get_set_of_ne _ _ _ (Side.other_ne x)
  have hstays := Rig.staysUp_fromLocal (h.up x) (h.still x) hm
  have hactions : (c.pair.play x (.event (.fromLocal m))).2.actions =
      ((c.pair.get x).rig.play (.event (.fromLocal m))).2.actions := List.append_nil _
  obtain ⟨flight, hharmless, hencode⟩ := h.flight x
  refine h.record ?_ ?_ ?_ ⟨_, hother⟩ ⟨flight, hharmless, ?_⟩
  · rw [hself, hactions]
    exact hstays
  · rw [hself]
    exact h.limits x
  · rw [hself]
    rfl
  · rw [hself, hother, ← hencode]
    exact congrArg (fun p => (c.pair.get x).reassembly.pendingOf p ++ _) hstays.peer

/-- A side reads any number of octets. -/
theorem read (x : Side) (n : Option Nat) : Calm limit (c.move (.read x n)) := by
  obtain ⟨hself, hresponse, tail, htail, hother⟩ := read_eq c x n
  obtain ⟨flight, hharmless, hencode⟩ := h.flight x
  have hfits : ∀ m ∈ flight, m.Fits (c.pair.get x).reassembly.limit := by
    intro m hm
    rw [h.limits x]
    exact (hharmless m hm).fits
  rw [← htail] at hencode
  obtain ⟨now, later, hresult, rfl, hrest⟩ := Reassembly.feed_of_encoded
    (c.pair.get x).reassembly (c.pair.get x).rig.session.peer (c.taken x n) hfits hencode
  obtain ⟨hreceive, hactions, -⟩ := Endpoint.receive_of_ok hresult
  have hstays := Rig.staysUp_playAll h.size_le (h.up x) (h.still x) fun m hm =>
    hharmless m (List.mem_append_left _ hm)
  refine h.record ?_ ?_ ?_ ⟨tail, hother⟩ ⟨later, fun m hm => ?_, ?_⟩
  · rw [hself, hreceive, hresponse, hactions]
    exact hstays
  · rw [hself, Endpoint.limit_receive, h.limits x]
  · rw [hself, hresponse, hreceive, hactions]
  · exact hharmless m (List.mem_append_right _ hm)
  · rw [hself, hreceive, hother, ← hrest]
    show Reassembly.pendingOf _ _ ++ tail = _
    rw [hstays.peer]

/-- Traffic of sound messages keeps a pair calm. -/
theorem moves {more : List Move} (hmore : ∀ m ∈ more, Traffic m)
    (hgiven : ∀ x, ∀ m ∈ c.given x more, m.Sound limit) : Calm limit (c.moves more) := by
  induction more generalizing c with
  | nil => exact h
  | cons move more ih =>
    have hnext : Calm limit (c.move move) := by
      have hmove := hmore move (List.mem_cons_self ..)
      cases move with
      | start x => cases hmove
      | read x n => exact h.read x n
      | event x e =>
        cases e with
        | fromLocal m =>
          obtain ⟨kind, body, hmake⟩ := Message.Accepted.exists_make? hmove
          refine h.fromLocal fun hf => ?_
          have hsubmitted : m ∈ c.submitted x (.event x (.fromLocal m)) := by
            simp [submitted, Session.submitted, hf, h.up x]
          exact (hgiven x m (List.mem_append_left _ hsubmitted)).harmless hmake hf
        | _ => cases hmove
    exact ih hnext (fun m hm => hmore m (List.mem_cons_of_mem _ hm)) fun x m hm =>
      hgiven x m (List.mem_append_right _ hm)

end Calm

/-- The messages that a side has sent and the other side has not handled yet. -/
def inFlight (c : Course) (x : Side) : List Message :=
  (c.account x).sent.drop (c.account x.other).messages.length

variable {allowed : SessionEvent → Prop} {parties : Side → Party} {c : Course} {limit : Nat}

/-- Whoever is up has heard something, so the limit leaves room for a header. -/
theorem size_le_of_up (hallowed : ∀ e, allowed e → e.Ambient) (hrun : Run allowed parties c)
    {x : Side} (hup : (c.pair.get x).rig.session.state = .sessionUp)
    (hheard : ∀ m ∈ (c.account x).messages, m.Fits limit) : Header.size ≤ limit := by
  obtain ⟨r, hr⟩ := (hrun.carries hallowed).exchange.agree hallowed
  obtain ⟨hstage, -⟩ := (hr.told x).isUp_of_state hup
  obtain ⟨e, he, -⟩ := (hr.told x).granted (Progress.grants_of_isUp hstage).1
  have hm : e.message ∈ (c.account x).messages :=
    List.mem_map_of_mem (List.mem_of_getElem? he)
  exact e.message.size_pos.trans (hheard _ hm).size_le

/-- What is on its way between two sessions that are up are keepalives and what collaborators have
handed over. -/
theorem Run.inFlight_cases (hallowed : ∀ e, allowed e → e.Ambient) (hrun : Run allowed parties c)
    (hup : ∀ x, (c.pair.get x).rig.session.state = .sessionUp) {x : Side} {m : Message}
    (hm : m ∈ c.inFlight x) :
    m = keepaliveMessage ∨ (parties x).role.forwards m = true ∧
      ∃ kind body, Message.make? kind body = .ok m := by
  obtain ⟨r, hr⟩ := (hrun.carries hallowed).exchange.agree hallowed
  have htold := hr.told x
  obtain ⟨hstage, hopen⟩ := htold.isUp_of_state (hup x)
  -- the other side has heard all of the negotiation, so this was said after coming up
  have hlater : m ∈ (r x).later := by
    obtain ⟨hstage', -⟩ := (hr.told x.other).isUp_of_state (hup x.other)
    have hheard := (hr.rest_prefix_later hstage').1
    rw [Side.other_other] at hheard
    have hsent : (c.account x).sent = (r x).said ++ (r x).later := htold.spoken.sent_eq
    have hmessages : (c.account x.other).messages = (r x.other).heard ++ (r x.other).rest :=
      (hr.told x.other).messages_eq
    rw [inFlight, hsent, hmessages, hheard, List.length_append, List.drop_length_add_append] at hm
    exact List.mem_of_mem_drop hm
  obtain ⟨hcandid, hrole⟩ := hrun.candid hallowed x
  have hcases := hcandid m (htold.spoken.later_eq hstage ▸ hlater)
  rw [hrole] at hcases
  have hstill : (c.speaker x).session.closed ≠ true := by simp [hopen]
  rcases hcases with hkeepalive | hf | hc
  · exact .inl hkeepalive
  · rcases (htold.later_mem m hlater).2 with hkeepalive | ha | ⟨hc, -⟩
    · exact .inl hkeepalive
    · exact .inr ⟨hf, hallowed _ ha⟩
    · exact absurd hc hstill
  · exact absurd hc hstill

/-- While both sessions are up, sound messages on their way are harmless. -/
theorem Run.calm (hallowed : ∀ e, allowed e → e.Ambient) (hrun : Run allowed parties c)
    (hwithin : Within limit (c.withLimit limit))
    (hup : ∀ x, (c.pair.get x).rig.session.state = .sessionUp)
    (hflight : ∀ x, ∀ m ∈ c.inFlight x, (parties x).role.forwards m = true → m.Sound limit) :
    Calm limit (c.withLimit limit) := by
  have hcarries := hrun.carries hallowed
  obtain ⟨r, hr⟩ := hcarries.exchange.agree hallowed
  have hsize := size_le_of_up hallowed hrun (hup .a) (hwithin.heard .a)
  have hget : ∀ x, (c.withLimit limit).pair.get x = (c.pair.get x).withLimit limit :=
    c.pair.get_withLimit limit
  refine ⟨hsize, hwithin.limits, fun x => ?_, fun x => ?_, fun x => ?_⟩
  · rw [hget]
    exact hup x
  · rw [hget]
    exact ((hr.told x).isUp_of_state (hup x)).2
  · obtain ⟨flight, hsent, hencode⟩ := hcarries.flight x
    refine ⟨flight, fun m hm => ?_, ?_⟩
    · have hinFlight : m ∈ c.inFlight x.other := by
        rw [inFlight, Side.other_other, hsent, List.drop_left]
        exact hm
      rcases hrun.inFlight_cases hallowed hup hinFlight with rfl | ⟨hf, kind, body, hmake⟩
      · exact Message.harmless_keepaliveMessage hsize
      · exact (hflight x.other m hinFlight hf).harmless hmake hf
    · rw [hget, hget, ← hencode, ← hcarries.exchange.peer_eq hallowed x]
      rfl

end Course

/-! ### Configured nodes -/

/-- A checked configuration has a limit that the length field can describe. -/
theorem NodeConfig.maxPackageSize_le (config : NodeConfig) (h : config.flaw? = none) :
    config.network.maxPackageSize.toNat ≤ Message.maxSize :=
  UInt64.le_iff_toNat_le.mp (flaw?_eq_none_iff.mp h).2.1

namespace Course

/-- A pair of nodes that read with the limit of a configuration. -/
def configured (config : NodeConfig) (parties : Side → Party) : Course :=
  (init parties).withLimit config.network.maxPackageSize.toNat

/-- **Sound traffic brings no session down.**  Let two nodes with the same checked configuration
have sessions that are up, after whatever happened before.  Collaborators of both sides hand over
messages of any type and body that the engine takes, and both sides read what is on its way in
pieces of any size.  Both sessions stay up if what the sides send of it is sound: within the
configured size, and readable where it is an ERROR.  The same goes for what collaborators have
handed over before and is still on its way.  What a role does not send at all may be anything. -/
theorem stays_up_under_sound_traffic {config : NodeConfig} (hconfig : config.flaw? = none)
    {parties : Side → Party} {ms : List Move}
    (hms : (configured config parties).PermitsAll SessionEvent.Ambient ms) :
    let c := (configured config parties).moves ms
    let limit := config.network.maxPackageSize.toNat
    (∀ x, (c.pair.get x).rig.session.state = .sessionUp) →
      (∀ x, ∀ m ∈ c.inFlight x, (parties x).role.forwards m = true → m.Sound limit) →
      ∀ more : List Move, (∀ m ∈ more, Traffic m) →
        (∀ x, ∀ m ∈ c.given x more, m.Sound limit) →
          ∀ x, ((c.moves more).pair.get x).rig.session.state = .sessionUp := by
  intro c limit hup hflight more hmore hgiven
  have hallowed : ∀ e : SessionEvent, e.Ambient → e.Ambient := fun _ he => he
  obtain ⟨hpermits, hsame⟩ := moves_withLimit hallowed (config.maxPackageSize_le hconfig) .init hms
    fun x hidle => absurd ((hup x).symm.trans hidle) (by decide)
  have hget : ∀ x, c.pair.get x = (((init parties).moves ms).pair.get x).withLimit limit := by
    intro x
    rw [show c = ((init parties).moves ms).withLimit limit from hsame]
    exact Pair.get_withLimit ..
  have hwithin : Within limit c := (within_init parties limit).moves ms
  have hcalm : Calm limit c := by
    rw [show c = ((init parties).moves ms).withLimit limit from hsame] at hwithin hflight ⊢
    refine (Run.init.moves hpermits).calm hallowed hwithin (fun x => ?_) hflight
    exact (congrArg (·.rig.session.state) (hget x)).symm.trans (hup x)
  exact (hcalm.moves hmore hgiven).up

/-- A handshake without counter proposals. -/
def plainMoves : List Move :=
  [.start .b, .start .a, .event .a .transportUp, .read .a none, .read .b none, .read .a none]

theorem plainMoves_permitted (config : NodeConfig) (h : (configured config plain).PermitsAll
    (· = .transportUp) plainMoves) :
    (configured config plain).PermitsAll SessionEvent.Ambient plainMoves :=
  h.mono fun e he => by
    subst he
    trivial

/-- The engine of a client that knows a server. -/
def acquainted : Desk := ((Desk.init .client 1).register (plain .a).peer).1

/-- Small messages in both directions, one of them an ERROR and one that a client does not send. -/
theorem stays_up_under_sound_traffic_small :
    let config : NodeConfig := { network := { maxPackageSize := 64 } }
    let c := (configured config plain).moves plainMoves
    let more : List Move :=
      [.event .a (.fromLocal (.make .request [1, 2])), .event .b (.fromLocal keepWaitNotice),
        .read .b (some 5), .event .a (.fromLocal (.make .response (List.replicate 90 0))),
        .read .a none, .read .b none]
    config.flaw? = none ∧ (configured config plain).PermitsAll SessionEvent.Ambient plainMoves ∧
      (∀ x, (c.pair.get x).rig.session.state = .sessionUp) ∧
      (∀ x, c.inFlight x = []) ∧ (∀ m ∈ more, Traffic m) ∧
      (∀ x, ∀ m ∈ c.given x more, m.Sound 64) ∧
      ∀ x, ((c.moves more).pair.get x).rig.session.state = .sessionUp := by
  intro config c more
  have hconfig : config.flaw? = none := by decide
  have hms := plainMoves_permitted config (by decide +kernel)
  have hup : ∀ x, (c.pair.get x).rig.session.state = .sessionUp :=
    fun x => by cases x <;> decide +kernel
  have hflight : ∀ x, c.inFlight x = [] := fun x => by cases x <;> decide +kernel
  have haccepted : ∀ (kind : MessageKind) (body : Octets),
      (acquainted.deliver (plain .a).peer kind body).2 = .ok () →
        (Message.make kind body).Accepted :=
    fun kind body hok => ⟨acquainted, _, kind, body, hok, rfl⟩
  have hmore : ∀ m ∈ more, Traffic m := by
    intro m hm
    simp only [more, List.mem_cons, List.not_mem_nil, or_false] at hm
    rcases hm with rfl | rfl | rfl | rfl | rfl | rfl
    · exact haccepted .request [1, 2] (by rfl)
    · exact haccepted .error _ (by rfl)
    · trivial
    · exact haccepted .response _ (by rfl)
    · trivial
    · trivial
  have hgiven : ∀ x, ∀ m ∈ c.given x more, m.Sound 64 := by
    intro x m hm
    cases x with
    | a =>
      rw [show c.given .a more = [.make .request [1, 2]] by decide +kernel] at hm
      rw [List.mem_singleton.mp hm]
      exact ⟨by decide, nofun⟩
    | b =>
      rw [show c.given .b more = [keepWaitNotice] by decide +kernel] at hm
      rw [List.mem_singleton.mp hm]
      exact ⟨by decide, fun _ => ⟨_, _, ErrorObject.content_message _ none nofun⟩⟩
  exact ⟨hconfig, hms, hup, hflight, hmore, hgiven, stays_up_under_sound_traffic hconfig hms hup
    (fun x m hm => by rw [hflight x] at hm; cases hm) more hmore hgiven⟩

/-- Messages that a call takes and that bring down the session of the peer: an ERROR that can not be
read as one, and a message that is larger than the peer is configured to read. -/
theorem brought_down_by_unsound :
    let c (config : NodeConfig) := (configured config plain).moves plainMoves
    (plain .a).role = .client ∧ (plain .b).role = .server ∧
      ∀ input ∈ [(({} : NodeConfig), MessageKind.error, ([] : Octets)),
          ({ network := { maxPackageSize := 64 } }, .request, List.replicate 61 0)],
        input.1.flaw? = none ∧ (∀ x, (plain x).settings = input.1.session.settings) ∧
          (configured input.1 plain).PermitsAll SessionEvent.Ambient plainMoves ∧
          (∀ x, ((c input.1).pair.get x).rig.session.state = .sessionUp) ∧
          (∀ x, (c input.1).inFlight x = []) ∧
          (acquainted.deliver (plain .a).peer input.2.1 input.2.2).2 = .ok () ∧
          let c' := (c input.1).moves
            [.event .a (.fromLocal (.make input.2.1 input.2.2)), .read .b none]
          (c'.pair.get .a).rig.session.state = .sessionUp ∧
            (c'.pair.get .b).rig.session.state = .idle := by
  intro c
  refine ⟨rfl, rfl, fun input hinput => ?_⟩
  simp only [List.mem_cons, List.not_mem_nil, or_false] at hinput
  rcases hinput with rfl | rfl
  all_goals
    refine ⟨by decide, fun x => ?_, plainMoves_permitted _ (by decide +kernel), fun x => ?_,
      fun x => ?_, by rfl, by decide +kernel, by decide +kernel⟩
    · cases x <;> decide
    · cases x <;> decide +kernel
    · cases x <;> decide +kernel

end Course

end PathSession
