import PathSession.Proofs.Session.Answers
import PathSession.Session.Script

/-!
# One side of a pair, with all it said and heard

A speaker is a session under a script together with an account of the whole run: every action it
asked for and every message it handled.  The account splits into the part that belongs to the
negotiation and the part that comes after it.

* `Hearing`, `Account`, `Speaker`: a session and what it has done so far;
* `Transcript`, `Told`: the split, and that it is true to the account;
* `Told.start`, `Told.event`, `Told.hear`: every step keeps some split true.
-/

namespace PathSession

/-- One message, with the session before and after it was handled. -/
structure Hearing where
  before : Session
  message : Message
  after : Session

/-- Everything a session asked for and everything it was sent, since the beginning. -/
structure Account where
  actions : List Action
  heard : List Hearing

namespace Account

def empty : Account := { actions := [], heard := [] }

/-- The messages sent so far. -/
def sent (a : Account) : List Message := Action.sent a.actions

/-- The messages handled so far. -/
def messages (a : Account) : List Message := a.heard.map Hearing.message

end Account

/-- A session under a script, and the account of what it did. -/
structure Speaker where
  rig : Rig
  account : Account

namespace Speaker

def init (s : Session) : Speaker := { rig := .init s, account := .empty }

def session (v : Speaker) : Session := v.rig.session

/-- The speaker after a turn, in which it was sent the given messages. -/
def after (v : Speaker) (t : Turn) (hearings : List Hearing) : Speaker :=
  { rig := (v.rig.after t).1
    account :=
      { actions := v.account.actions ++ t.actions, heard := v.account.heard ++ hearings } }

/-- The turn that a stimulus causes. -/
def respond (v : Speaker) (stimulus : Stimulus) : Turn :=
  v.session.respond v.rig.nextToken v.rig.lastArmed stimulus

/-- One stimulus other than a message. -/
def play (v : Speaker) (stimulus : Stimulus) : Speaker := v.after (v.respond stimulus) []

/-- One message of the other side. -/
def hear (v : Speaker) (m : Message) : Speaker :=
  let t := v.respond (.event (.network m))
  v.after t [{ before := v.session, message := m, after := t.session }]

variable (v : Speaker) (t : Turn) (hearings : List Hearing) (m : Message)

@[simp] theorem session_after : (v.after t hearings).session = t.session := rfl

@[simp] theorem sent_after :
    (v.after t hearings).account.sent = v.account.sent ++ Action.sent t.actions :=
  Action.sent_append ..

@[simp] theorem messages_after :
    (v.after t hearings).account.messages =
      v.account.messages ++ hearings.map Hearing.message := List.map_append ..

@[simp] theorem messages_hear : (v.hear m).account.messages = v.account.messages ++ [m] :=
  messages_after ..

@[simp] theorem messages_play (stimulus : Stimulus) :
    (v.play stimulus).account.messages = v.account.messages := by
  rw [play, messages_after, List.map_nil, List.append_nil]

variable {v}

theorem respond_of_open (hc : v.session.closed = false) (e : SessionEvent) :
    v.respond (.event e) = (Turn.start v.session v.rig.nextToken).take e := by
  show v.session.handle _ e = _
  simp [Session.handle, hc]

theorem respond_openWait (hc : v.session.closed = false) (hs : v.session.state = .openWait) :
    v.respond (.event (.network m)) = (Turn.start v.session v.rig.nextToken).inOpenWait m := by
  rw [respond_of_open hc]
  simp [Turn.take, Turn.fromNetwork, hs]

theorem respond_keepWait (hc : v.session.closed = false) (hs : v.session.state = .keepWait) :
    v.respond (.event (.network m)) = (Turn.start v.session v.rig.nextToken).inKeepWait m := by
  rw [respond_of_open hc]
  simp [Turn.take, Turn.fromNetwork, hs]

theorem respond_sessionUp (hc : v.session.closed = false) (hs : v.session.state = .sessionUp) :
    v.respond (.event (.network m)) = (Turn.start v.session v.rig.nextToken).inSessionUp m := by
  rw [respond_of_open hc]
  simp [Turn.take, Turn.fromNetwork, hs]

/-- A closed session drops every event. -/
theorem rests_of_closed (hc : v.session.closed = true) (e : SessionEvent) :
    Rests v.session e (v.respond (.event e)) := by
  have hturn : v.respond (.event e)
      = (Turn.start v.session v.rig.nextToken).note (.droppedAfterClose e) := by
    show v.session.handle _ e = _
    simp [Session.handle, hc]
  rw [hturn]
  exact Turn.rests_quiet rfl rfl rfl rfl (by simp) (by simp)

end Speaker

/-- An account split at the end of the negotiation: the point it is at, what was said and heard to
get there, and what was said and heard afterwards. -/
structure Transcript where
  stage : Progress
  said : List Message
  later : List Message
  heard : List Message
  rest : List Message

/-- Whether a session has not been started. -/
def Session.Fresh (s : Session) : Prop := s.state = .idle ∧ s.closed = false

instance (s : Session) : Decidable s.Fresh :=
  inferInstanceAs (Decidable (_ ∧ _))

/-- A transcript is true to a speaker of the given party, whose session is told of nothing but
messages of the peer and the allowed events. -/
structure Told (allowed : SessionEvent → Prop) (party : Party) (v : Speaker) (r : Transcript) :
    Prop where
  party_eq : v.session.party = party
  talk : Talk v.session.terms r.stage r.said r.heard
  spoken : Spoken v.account.actions r.stage.isUp r.said r.later
  messages_eq : v.account.messages = r.heard ++ r.rest
  unstarted : r.stage = .unstarted → ∃ initiator, v.session = party.session initiator
  phase : r.stage ≠ .unstarted → v.session.Phase
  connected : v.session.connected = r.stage.connected
  standing : v.session.closed = false → v.session.standing = r.stage.standing
  /-- until it is up or closed, a session takes part in nothing but the negotiation -/
  quiet : v.session.closed = false → r.stage.isUp = false → r.later = [] ∧ r.rest = []
  farewell : r.stage.isUp = false → ∀ m ∈ r.later, m.Farewell
  later_mem : ∀ m ∈ r.later, m.kind? ≠ some .opening ∧
    (m = keepaliveMessage ∨ allowed (.fromLocal m) ∨ v.session.closed = true ∧ m.Farewell)
  queue : ∀ m ∈ v.session.outbound, allowed (.fromLocal m)
  /-- the peer's offer was accepted when it was heard -/
  granted : r.stage.grants = true → ∃ h, v.account.heard[r.stage.grantedAt]? = some h ∧
    h.before.remoteOk = false ∧ h.after.remoteOk = true
  fits : ∀ m ∈ v.account.sent, m.Fits Message.maxSize

/-- Transcripts only grow, a transport stays, and so does the point that a closed session has got
to. -/
structure Transcript.Grows (closed : Bool) (r r' : Transcript) : Prop where
  said : r.said <+: r'.said
  connected : r.stage.connected = true → r'.stage.connected = true
  stage : closed = true → r'.stage = r.stage

namespace Told

variable {allowed : SessionEvent → Prop} {party : Party} {v : Speaker} {r : Transcript}

/-- Nothing was said or heard. -/
theorem init (party : Party) (initiator : Bool) :
    Told allowed party (.init (party.session initiator))
      { stage := .unstarted, said := [], later := [], heard := [], rest := [] } where
  party_eq := rfl
  talk := Talk.silent rfl _ ⟨rfl, rfl⟩
  spoken := Spoken.nil
  messages_eq := rfl
  unstarted _ := ⟨initiator, rfl⟩
  phase h := absurd rfl h
  connected := rfl
  standing _ := rfl
  quiet _ _ := ⟨rfl, rfl⟩
  farewell _ := nofun
  later_mem := nofun
  queue := nofun
  granted := nofun
  fits := nofun

section Facts

variable (h : Told allowed party v r)
include h

/-- The state of a session that is not closed is that of the point it has got to. -/
theorem state_eq (hc : v.session.closed = false) : v.session.state = r.stage.state :=
  congrArg Standing.state (h.standing hc)

theorem fresh_iff : v.session.Fresh ↔ r.stage = .unstarted := by
  constructor
  · rintro ⟨hs, hc⟩
    exact Progress.eq_unstarted ((h.state_eq hc).symm.trans hs)
  · intro hu
    obtain ⟨initiator, hs⟩ := h.unstarted hu
    rw [hs]
    exact ⟨rfl, rfl⟩

/-- A closed session is idle and has no flags. -/
theorem of_closed (hc : v.session.closed = true) :
    r.stage ≠ .unstarted ∧ v.session.state = .idle ∧ v.session.localOk = false ∧
      v.session.remoteOk = false := by
  have hu : r.stage ≠ .unstarted := by
    intro hu
    obtain ⟨initiator, hs⟩ := h.unstarted hu
    rw [hs] at hc
    cases hc
  have hholds := (h.phase hu).holds
  cases hs : v.session.state <;> rw [hs] at hholds
  · exact ⟨hu, rfl, hholds.2.1, hholds.2.2.1⟩
  all_goals
    have := hholds.1
    rw [hc] at this
    cases this

/-- A session that is up is so because its negotiation ended well. -/
theorem isUp_of_state (hs : v.session.state = .sessionUp) :
    r.stage.isUp = true ∧ v.session.closed = false := by
  have hc : v.session.closed = false := by
    by_contra hc
    have := (h.of_closed (by simpa using hc)).2.1
    rw [hs] at this
    cases this
  exact ⟨Progress.isUp_iff.mpr ((h.state_eq hc).symm.trans hs), hc⟩

end Facts

/-! ### One turn -/

section Turn

variable {t : Turn} {l : List Hearing} (h : Told allowed party v r)
variable (hallowed : ∀ e, allowed e → e.Ambient)
include h hallowed

/-- A turn after which the negotiation is still at the same point. -/
theorem extend (hu : r.stage ≠ .unstarted) (hphase : t.session.Phase)
    (hterms : t.session.terms = v.session.terms)
    (hconnected : t.session.connected = v.session.connected)
    (hstanding : t.session.closed = false →
      v.session.closed = false ∧ t.session.standing = v.session.standing)
    (hestablished : .established ∉ t.actions)
    (hquiet : t.session.closed = false → r.stage.isUp = false →
      Action.sent t.actions = [] ∧ l = [])
    (hfarewell : r.stage.isUp = false → ∀ m ∈ Action.sent t.actions, m.Farewell)
    (hlater : ∀ m ∈ Action.sent t.actions, m.kind? ≠ some .opening ∧
      (m = keepaliveMessage ∨ allowed (.fromLocal m) ∨ t.session.closed = true ∧ m.Farewell))
    (hqueue : ∀ m ∈ t.session.outbound, allowed (.fromLocal m)) :
    Told allowed party (v.after t l)
      { r with
        later := r.later ++ Action.sent t.actions
        rest := r.rest ++ l.map Hearing.message } where
  party_eq := (congrArg Terms.party hterms).trans h.party_eq
  talk := by
    rw [Speaker.session_after, hterms]
    exact h.talk
  spoken := h.spoken.goOn hestablished
  messages_eq := by rw [Speaker.messages_after, h.messages_eq, List.append_assoc]
  unstarted hu' := absurd hu' hu
  phase _ := hphase
  connected := hconnected.trans h.connected
  standing hc := (hstanding hc).2.trans (h.standing (hstanding hc).1)
  quiet hc hup := by
    obtain ⟨hsent, hhear⟩ := hquiet hc hup
    obtain ⟨hl, hr⟩ := h.quiet (hstanding hc).1 hup
    exact ⟨by rw [hl, hsent]; rfl, by rw [hr, hhear]; rfl⟩
  farewell hup m hm := by
    rcases List.mem_append.mp hm with hm | hm
    · exact h.farewell hup m hm
    · exact hfarewell hup m hm
  later_mem m hm := by
    rcases List.mem_append.mp hm with hm | hm
    · obtain ⟨hk, hcases⟩ := h.later_mem m hm
      refine ⟨hk, hcases.imp_right (Or.imp_right fun hc => ⟨?_, hc.2⟩)⟩
      by_contra hc'
      have := (hstanding (by simpa using hc')).1
      rw [hc.1] at this
      cases this
    · exact hlater m hm
  queue := hqueue
  granted hg := by
    obtain ⟨x, hx, hrest⟩ := h.granted hg
    exact ⟨x, getElem?_grown hx _, hrest⟩
  fits m hm := by
    rw [Speaker.sent_after] at hm
    rcases List.mem_append.mp hm with hm | hm
    · exact h.fits m hm
    · obtain ⟨-, rfl | ha | ⟨-, hf⟩⟩ := hlater m hm
      · exact Message.fits_keepaliveMessage (by decide)
      · obtain ⟨kind, body, hmake⟩ := hallowed _ ha
        exact Message.fits_of_make? hmake
      · exact hf.fits (by decide)

theorem rests {e : SessionEvent} (hu : r.stage ≠ .unstarted) (ht : Rests v.session e t)
    (hphase : t.session.Phase) (he : ∀ m, e = .fromLocal m → allowed (.fromLocal m))
    (hhear : v.session.closed = false → r.stage.isUp = false → l = []) :
    Told allowed party (v.after t l)
      { r with
        later := r.later ++ Action.sent t.actions
        rest := r.rest ++ l.map Hearing.message } := by
  -- whoever is not up says nothing
  have hsilent : r.stage.isUp = false → Action.sent t.actions = [] := by
    intro hup
    refine List.eq_nil_iff_forall_not_mem.mpr fun m hm => ?_
    have := (h.isUp_of_state (ht.sent m hm).1).1
    rw [hup] at this
    cases this
  refine h.extend hallowed hu hphase ht.terms (congrArg Standing.connected ht.standing)
    (fun hc => ⟨ht.still.symm.trans hc, ht.standing⟩) ht.established (fun hc hup => ?_)
    (fun hup => ?_) (fun m hm => ?_) fun m hm => ?_
  · exact ⟨hsilent hup, hhear (ht.still.symm.trans hc) hup⟩
  · rw [hsilent hup]
    exact nofun
  · obtain ⟨-, hk, hcases⟩ := ht.sent m hm
    exact ⟨hk, hcases.imp_right fun hm' => .inl (he m hm')⟩
  · exact (ht.queue m hm).elim (h.queue m) (he m)

theorem ends (hu : r.stage ≠ .unstarted) (ht : Ends v.session t) (hphase : t.session.Phase) :
    Told allowed party (v.after t l)
      { r with
        later := r.later ++ Action.sent t.actions
        rest := r.rest ++ l.map Hearing.message } := by
  have hclosed : t.session.closed ≠ false := by simp [ht.closed]
  refine h.extend hallowed hu hphase ht.terms ht.connected (fun hc => absurd hc hclosed)
    ht.established (fun hc => absurd hc hclosed) (fun _ => ht.farewell) (fun m hm => ?_) ?_
  · exact ⟨(ht.farewell m hm).kind_ne, .inr (.inr ⟨ht.closed, ht.farewell m hm⟩)⟩
  · rw [ht.queue]
    exact nofun

/-- A turn that moves the negotiation on. -/
theorem advances {k : Terms} {σ : Progress} {said : List Message}
    (hc : v.session.closed = false) (hup : r.stage.isUp = false) (hu : σ ≠ .unstarted)
    (ht : Advances v.session t k σ.standing said) (hphase : t.session.Phase)
    (hparty : k.party = v.session.party)
    (htalk : Talk k σ (r.said ++ said) (r.heard ++ l.map Hearing.message))
    (hgranted : σ.grants = true → ∃ x, (v.account.heard ++ l)[σ.grantedAt]? = some x ∧
      x.before.remoteOk = false ∧ x.after.remoteOk = true)
    (hfits : ∀ m ∈ said, m.Fits Message.maxSize) :
    ∃ later, Told allowed party (v.after t l)
      { stage := σ
        said := r.said ++ said
        later
        heard := r.heard ++ l.map Hearing.message
        rest := [] } := by
  -- so far nothing was said or heard but the negotiation
  obtain ⟨hlater, hrest⟩ := h.quiet hc hup
  obtain ⟨later, hspoken, hnil, hqueue⟩ := ht.spoken
  have hisUp : decide (σ.standing.state = .sessionUp) = σ.isUp := by
    cases σ <;> rfl
  rw [hisUp] at hspoken
  have hnil' : σ.isUp = false → later = [] := by
    intro hσ
    refine hnil fun hs => ?_
    rw [Progress.isUp_iff.mpr hs] at hσ
    cases hσ
  refine ⟨later, ?_⟩
  constructor
  · exact (congrArg Terms.party ht.terms).trans (hparty.trans h.party_eq)
  · rw [Speaker.session_after, ht.terms]
    exact htalk
  · have := h.spoken
    rw [hup, hlater] at this
    exact this.append hspoken
  · rw [Speaker.messages_after, h.messages_eq, hrest, List.append_nil, List.append_nil]
  · exact fun hu' => absurd hu' hu
  · exact fun _ => hphase
  · exact congrArg Standing.connected ht.standing
  · exact fun _ => ht.standing
  · exact fun _ hσ => ⟨hnil' hσ, rfl⟩
  · intro hσ
    rw [hnil' hσ]
    exact nofun
  · intro m hm
    obtain ⟨hm, hk⟩ := hqueue m hm
    exact ⟨hk, .inr (.inl (h.queue m hm))⟩
  · exact fun m hm => h.queue m (ht.queue hm)
  · exact hgranted
  · intro m hm
    rw [Speaker.sent_after, hspoken.sent_eq, ← List.append_assoc] at hm
    rcases List.mem_append.mp hm with hm | hm
    · rcases List.mem_append.mp hm with hm | hm
      · exact h.fits m hm
      · exact hfits m hm
    · -- what waited in the queue came from a local event
      obtain ⟨kind, body, hmake⟩ := hallowed _ (h.queue m (hqueue m hm).1)
      exact Message.fits_of_make? hmake

end Turn

/-! ### The steps of a run -/

theorem nil_of_unconnected (h : Told allowed party v r) (hc : r.stage.connected = false) :
    r.said = [] ∧ r.heard = [] ∧ r.stage.isUp = false := by
  obtain ⟨hsaid, hheard, hup, -⟩ := Progress.unconnected_flags hc
  refine ⟨?_, ?_, hup⟩
  · exact List.map_eq_nil_iff.mp (h.talk.said_marks.trans hsaid)
  · exact List.map_eq_nil_iff.mp (h.talk.heard_marks.trans hheard)

section Steps

variable (h : Told allowed party v r) (hallowed : ∀ e, allowed e → e.Ambient)
include h hallowed

/-- The transport is there and the offer is made. -/
theorem propose {t : Turn} (hc : v.session.closed = false) (hr : r.stage.connected = false)
    (ht : Advances v.session t v.session.terms Progress.proposed.standing
      [v.session.terms.offer.message]) (hphase : t.session.Phase) :
    ∃ r', Told allowed party (v.after t []) r' ∧ r.Grows v.session.closed r' := by
  obtain ⟨hsaid, hheard, hup⟩ := h.nil_of_unconnected hr
  obtain ⟨-, -, -, hrev, -⟩ := Progress.unconnected_flags hr
  obtain ⟨later, htold⟩ := h.advances hallowed (σ := .proposed) (l := []) hc hup nofun ht
    hphase rfl (by simpa [hsaid, hheard] using Talk.propose _ (h.talk.kept hrev)) nofun
    (fun m hm => by
      rw [List.mem_singleton.mp hm]
      exact Message.fits_propose (by decide) _)
  refine ⟨_, htold, List.prefix_append _ _, fun _ => rfl, fun hc' => ?_⟩
  rw [hc] at hc'
  cases hc'

theorem start (hf : v.session.Fresh) :
    ∃ r', Told allowed party (v.play .start) r' ∧ r.Grows v.session.closed r' := by
  have hu := h.fresh_iff.mp hf
  obtain ⟨initiator, hs⟩ := h.unstarted hu
  have hr : r.stage.connected = false := by rw [hu]; rfl
  have hphase : (v.respond .start).session.Phase := by
    show (v.session.start _).session.Phase
    rw [hs]
    exact Session.phase_start ..
  have hstanding : v.session.standing = Progress.unstarted.standing := by
    rw [h.standing hf.2, hu]
  -- an initiator waits for its transport, and an acceptor has one to make its offer on
  cases hi : v.session.initiator with
  | true =>
    obtain ⟨hsaid, hheard, hup⟩ := h.nil_of_unconnected hr
    have hrev : r.stage.revises = false := by rw [hu]; rfl
    have ht := Session.advances_start_initiator v.rig.nextToken hf.2 hi
    rw [hstanding] at ht
    obtain ⟨later, htold⟩ := h.advances hallowed (σ := .connecting) (l := []) hf.2 hup nofun
      ht hphase rfl (by simpa [hsaid, hheard] using Talk.silent rfl _ (h.talk.kept hrev))
      nofun nofun
    refine ⟨_, htold, List.prefix_append _ _, fun hr' => ?_, fun hc' => ?_⟩
    · rw [hr] at hr'
      cases hr'
    · rw [hf.2] at hc'
      cases hc'
  | false =>
    have ht := Session.advances_start_acceptor v.rig.nextToken hf.2 hi
    rw [hstanding] at ht
    exact h.propose hallowed hf.2 hr ht hphase

theorem event {e : SessionEvent} (hf : ¬ v.session.Fresh) (he : allowed e) :
    ∃ r', Told allowed party (v.play (.event e)) r' ∧ r.Grows v.session.closed r' := by
  have hu : r.stage ≠ .unstarted := fun hu => hf (h.fresh_iff.mpr hu)
  have hphase : (v.respond (.event e)).session.Phase := Session.phase_handle (h.phase hu) _ e
  have hlocal : ∀ m, e = .fromLocal m → allowed (.fromLocal m) := by
    rintro m rfl
    exact he
  by_cases hc : v.session.closed = true
  · have ht := Speaker.rests_of_closed hc e
    exact ⟨_, h.rests hallowed (l := []) hu ht hphase hlocal fun _ _ => rfl,
      List.prefix_refl _, id, fun _ => rfl⟩
  · have hc : v.session.closed = false := by simpa using hc
    rw [Speaker.respond_of_open hc] at hphase
    have hplay : v.play (.event e)
        = v.after ((Turn.start v.session v.rig.nextToken).take e) [] := by
      rw [Speaker.play, Speaker.respond_of_open hc]
    rw [hplay]
    have hcases := Turn.take_ambient (t := Turn.start v.session v.rig.nextToken) rfl (h.phase hu)
      hc (hallowed e he)
    rcases hcases with ht | ht | ⟨hs, ht⟩
    · exact ⟨_, h.rests hallowed (l := []) hu ht hphase hlocal fun _ _ => rfl,
        List.prefix_refl _, id, fun _ => rfl⟩
    · exact ⟨_, h.ends hallowed (l := []) hu ht hphase, List.prefix_refl _, id, fun _ => rfl⟩
    · have hstage : r.stage = .connecting :=
        Progress.eq_connecting ((h.state_eq hc).symm.trans hs)
      rw [Turn.session_start, h.standing hc, hstage] at ht
      exact h.propose hallowed hc (by rw [hstage]; rfl) ht hphase

/-- A message that leaves the point, or ends the session. -/
theorem hear_stay {m : Message} (hu : r.stage ≠ .unstarted)
    (ht : Rests v.session (.network m) (v.respond (.event (.network m))) ∧
        (v.session.closed = true ∨ r.stage.isUp = true) ∨
      Ends v.session (v.respond (.event (.network m)))) :
    ∃ r', Told allowed party (v.hear m) r' ∧ r.Grows v.session.closed r' := by
  have hphase : (v.respond (.event (.network m))).session.Phase :=
    Session.phase_handle (h.phase hu) _ _
  rcases ht with ⟨ht, hor⟩ | ht
  · refine ⟨_, h.rests hallowed hu ht hphase nofun fun hc hup => ?_, List.prefix_refl _,
      id, fun _ => rfl⟩
    rw [hc, hup] at hor
    simp at hor
  · exact ⟨_, h.ends hallowed hu ht hphase, List.prefix_refl _, id, fun _ => rfl⟩

/-- A message that moves the negotiation on. -/
theorem hear_move {m : Message} {k : Terms} {σ : Progress} {said : List Message}
    (hc : v.session.closed = false) (hup : r.stage.isUp = false) (hσ : σ.connected = true)
    (hu : r.stage ≠ .unstarted)
    (ht : Advances v.session (v.respond (.event (.network m))) k σ.standing said)
    (hparty : k.party = v.session.party)
    (htalk : Talk k σ (r.said ++ said) (r.heard ++ [m]))
    (hgranted : σ.grants = true → r.stage.grants = true ∧ σ.grantedAt = r.stage.grantedAt ∨
      r.stage.grants = false ∧ σ.grantedAt = r.heard.length)
    (hfits : ∀ m ∈ said, m.Fits Message.maxSize) :
    ∃ r', Told allowed party (v.hear m) r' ∧ r.Grows v.session.closed r' := by
  have hphase : (v.respond (.event (.network m))).session.Phase :=
    Session.phase_handle (h.phase hu) _ _
  have hlen : v.account.heard.length = r.heard.length := by
    have := congrArg List.length h.messages_eq
    rwa [(h.quiet hc hup).2, List.append_nil, Account.messages, List.length_map] at this
  let x : Hearing :=
    { before := v.session, message := m, after := (v.respond (.event (.network m))).session }
  have hσ' : σ ≠ .unstarted := by
    rintro rfl
    cases hσ
  have hx : σ.grants = true → ∃ x', (v.account.heard ++ [x])[σ.grantedAt]? = some x' ∧
      x'.before.remoteOk = false ∧ x'.after.remoteOk = true := by
    intro hg
    -- the accepted offer was heard before, or it is the message heard now
    rcases hgranted hg with ⟨hg', hat⟩ | ⟨hg', hat⟩
    · obtain ⟨x', hx', hrest⟩ := h.granted hg'
      rw [hat]
      exact ⟨x', getElem?_grown hx' _, hrest⟩
    · refine ⟨x, getElem?_last _ _ (by rw [hat, hlen]), ?_, ?_⟩
      · exact (congrArg Standing.remoteOk (h.standing hc)).trans hg'
      · exact (congrArg Standing.remoteOk ht.standing).trans hg
  obtain ⟨later, htold⟩ := h.advances hallowed (l := [x]) hc hup hσ' ht hphase hparty htalk hx hfits
  refine ⟨_, htold, List.prefix_append _ _, fun _ => hσ, fun hc' => ?_⟩
  rw [hc] at hc'
  cases hc'

theorem hear_openWait {m : Message} (hc : v.session.closed = false)
    (hs : r.stage.state = .openWait) :
    ∃ r', Told allowed party (v.hear m) r' ∧ r.Grows v.session.closed r' := by
  have hstate : v.session.state = .openWait := (h.state_eq hc).trans hs
  have hflags := h.standing hc
  have hlocal : v.session.localOk = r.stage.granted := congrArg Standing.localOk hflags
  obtain ⟨hcon, hup, hgr⟩ := Progress.openWait_flags hs
  obtain ⟨hu, -⟩ := Progress.connected_flags hcon
  have hturn := Speaker.respond_openWait m hc hstate
  rcases Turn.inOpenWait_cases (t := Turn.start v.session v.rig.nextToken) rfl m with
    ⟨o, hm, hconsider⟩ | ⟨ht, -⟩
  · rw [hconsider] at hturn
    have hcases := Turn.consider_cases (t := Turn.start v.session v.rig.nextToken) rfl
      (h.phase hu) hstate o
    rcases hcases with ⟨hv, ht⟩ | ⟨hv, h0, ht⟩ | ⟨ht, -, -⟩
    · -- accepted
      obtain ⟨hcon', -, -, hat, -, -⟩ := Progress.grant_flags hs
      rw [← hturn, Turn.session_start, hflags, hlocal, ← Progress.grant_standing hs] at ht
      refine h.hear_move hallowed hc hup hcon' hu ht rfl (h.talk.grant hs hm hv) (fun _ => ?_)
        fun m' hm' => ?_
      · exact .inr ⟨hgr, hat.trans h.talk.length_heard.symm⟩
      · rw [List.mem_singleton.mp hm']
        exact Message.fits_keepaliveMessage (by decide)
    · -- countered, which happens to a first offer only
      replace h0 : v.session.openRetries = 0 := h0
      have hcounters : r.stage.counters = false := by
        have := (congrArg Standing.openRetries hflags).symm.trans h0
        simpa [Progress.standing] using this
      obtain ⟨hcon', -, -, -, -, hgr', -, hgranted⟩ := Progress.counter_flags hs hcounters
      rw [← hturn, Turn.session_start, hflags, hlocal, hgranted, h0] at ht
      simp only [Bool.false_eq_true, if_false, Nat.zero_add] at ht
      rw [← Progress.counter_standing hs hcounters] at ht
      refine h.hear_move hallowed hc hup hcon' hu ht rfl (h.talk.counter hs hcounters hm hv)
        (fun hg => ?_) fun m' hm' => ?_
      · rw [hgr'] at hg
        cases hg
      · rw [List.mem_singleton.mp hm']
        exact Message.fits_error (by decide) _ _
    · rw [← hturn] at ht
      exact h.hear_stay hallowed hu (.inr ht)
  · rw [← hturn] at ht
    exact h.hear_stay hallowed hu (.inr ht)

theorem hear_keepWait {m : Message} (hc : v.session.closed = false)
    (hs : r.stage.state = .keepWait) (hnext : r.stage.revises = true → m.mark ≠ .counter) :
    ∃ r', Told allowed party (v.hear m) r' ∧ r.Grows v.session.closed r' := by
  have hstate : v.session.state = .keepWait := (h.state_eq hc).trans hs
  have hflags := h.standing hc
  have hremote : v.session.remoteOk = r.stage.grants := congrArg Standing.remoteOk hflags
  obtain ⟨hcon, hup⟩ := Progress.keepWait_flags hs
  obtain ⟨hu, -⟩ := Progress.connected_flags hcon
  have hturn := Speaker.respond_keepWait m hc hstate
  have hcases := Turn.inKeepWait_cases (t := Turn.start v.session v.rig.nextToken) rfl
    (h.phase hu) hstate m
  rcases hcases with ⟨hm, ht⟩ | ⟨e, o, hm, hv, ht⟩ | ⟨ht, -, -⟩
  · -- our offer is accepted
    obtain ⟨hcon', -, hcounters, hgr, -⟩ := Progress.assented_flags hs
    rw [← hturn, Turn.session_start, hflags, hremote, ← Progress.assented_standing hs] at ht
    have htalk := h.talk.assented hs hm
    rw [← List.append_nil r.said] at htalk
    refine h.hear_move hallowed hc hup hcon' hu ht rfl htalk (fun hg => ?_) nofun
    refine .inl ⟨hgr.symm.trans hg, ?_⟩
    rw [Progress.grantedAt, hcounters, Progress.grantedAt]
  · -- our offer is countered, and that for the first time
    have hrevises : r.stage.revises = false := by
      by_contra hr
      exact hnext (by simpa using hr) (Message.mark_eq_counter.mpr ⟨e, o, hm⟩)
    obtain ⟨hcon', -, hcounters, -, -, hgr, -⟩ := Progress.revise_flags hs hrevises
    rw [← hturn, Turn.session_start, hflags, hremote, ← Progress.revise_standing hs hrevises] at ht
    refine h.hear_move hallowed hc hup hcon' hu ht rfl (h.talk.revise hs hrevises hm hv)
      (fun hg => ?_) fun m' hm' => ?_
    · refine .inl ⟨hgr.symm.trans hg, ?_⟩
      rw [Progress.grantedAt, hcounters, Progress.grantedAt]
    · rw [List.mem_singleton.mp hm']
      exact Message.fits_propose (by decide) _
  · rw [← hturn] at ht
    exact h.hear_stay hallowed hu (.inr ht)

/-- A message of the other side.  The wire brings no second counter proposal. -/
theorem hear {m : Message} (hconnected : v.session.connected = true)
    (hnext : v.session.closed = false → r.stage.revises = true → r.stage.state = .keepWait →
      m.mark ≠ .counter) :
    ∃ r', Told allowed party (v.hear m) r' ∧ r.Grows v.session.closed r' := by
  have hr : r.stage.connected = true := h.connected.symm.trans hconnected
  obtain ⟨hu, hidle, hpending⟩ := Progress.connected_flags hr
  by_cases hc : v.session.closed = true
  · exact h.hear_stay hallowed hu (.inl ⟨Speaker.rests_of_closed hc _, .inl hc⟩)
  · have hc : v.session.closed = false := by simpa using hc
    cases hs : r.stage.state with
    | idle => exact absurd hs hidle
    | tcpPending => exact absurd hs hpending
    | openWait => exact h.hear_openWait hallowed hc hs
    | keepWait => exact h.hear_keepWait hallowed hc hs fun hrev => hnext hc hrev hs
    | sessionUp =>
      have hstate : v.session.state = .sessionUp := (h.state_eq hc).trans hs
      have hturn := Speaker.respond_sessionUp m hc hstate
      rcases Turn.inSessionUp_cases (t := Turn.start v.session v.rig.nextToken) rfl m with
        ht | ⟨ht, -⟩
      · rw [← hturn] at ht
        exact h.hear_stay hallowed hu (.inl ⟨ht, .inr (Progress.isUp_iff.mpr hs)⟩)
      · rw [← hturn] at ht
        exact h.hear_stay hallowed hu (.inr ht)

end Steps

end Told

end PathSession
