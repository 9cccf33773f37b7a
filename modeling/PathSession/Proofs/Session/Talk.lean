import PathSession.Proofs.Session.Negotiation

/-!
# What a side of a negotiation knows

The terms of a session, and how they are tied to what the session has said and heard.  Nothing here
depends on how a session works; the four moves of a negotiation keep the tie.

* `Party`, `Terms`, `Standing`: the parts of a session that a negotiation is about;
* `Talk`: the tie between terms, point, said and heard;
* `Talk.grant`, `Talk.counter`, `Talk.assented`, `Talk.revise`: the moves.
-/

namespace PathSession

/-- What a session is made from: its peer, its role, its number and its settings. -/
structure Party where
  peer : PeerAddress
  role : Role
  sessionId : UInt8
  settings : Settings
  deriving DecidableEq, Repr

namespace Party

/-- A fresh session of a party. -/
def session (p : Party) (initiator : Bool) : Session :=
  .init p.peer p.role initiator p.sessionId p.settings

/-- The proposal that a party is configured with. -/
def proposal (p : Party) : OpenObject :=
  .propose p.settings.keepalive p.settings.deadTimer p.sessionId

/-- What a party proposes instead of an offer. -/
def counterTo (p : Party) (offer : OpenObject) : OpenObject :=
  p.settings.policy.counterProposal offer p.sessionId

/-- The message that counters an offer. -/
def counterMessage (p : Party) (offer : OpenObject) : Message :=
  (ErrorObject.establishment .negotiable).message (some (p.counterTo offer))

theorem content_counterMessage (p : Party) (offer : OpenObject) :
    (p.counterMessage offer).content
      = .ok (.error (.establishment .negotiable) (some (p.counterTo offer))) := by
  refine ErrorObject.content_message _ _ fun o ho => ?_
  cases ho
  exact ⟨show protocolVersion.toNat < 8 by decide, show (0 : UInt8).toNat < 32 by decide⟩

end Party

/-- The values of a negotiation: our proposal as it stands, and what we accepted from the peer. -/
structure Terms where
  party : Party
  keepalive : UInt8
  deadTimer : UInt8
  peerKeepalive : UInt8
  peerDeadTimer : UInt8
  deriving DecidableEq, Repr

namespace Terms

/-- Our offer as it stands. -/
def offer (k : Terms) : OpenObject := .propose k.keepalive k.deadTimer k.party.sessionId

theorem content_offer (k : Terms) : k.offer.message.content = .ok (.opening k.offer) :=
  OpenObject.content_propose ..

/-- The verdict on an offer of the peer. -/
def check (k : Terms) (o : OpenObject) : Verdict := k.party.settings.policy.check o

/-- The terms after accepting an offer. -/
def grant (k : Terms) (o : OpenObject) : Terms :=
  { k with peerKeepalive := o.keepalive, peerDeadTimer := o.deadTimer }

/-- The terms after taking over a counter proposal. -/
def revise (k : Terms) (o : OpenObject) : Terms :=
  { k with keepalive := o.keepalive, deadTimer := o.deadTimer }

end Terms

/-- The flags of a session that move in a negotiation. -/
structure Standing where
  state : State
  connected : Bool
  localOk : Bool
  remoteOk : Bool
  openRetries : Nat
  deriving DecidableEq, Repr

namespace Session

/-- What a session was made from. -/
def party (s : Session) : Party :=
  { peer := s.peer, role := s.role, sessionId := s.sessionId, settings := s.settings }

/-- The values a session has negotiated so far. -/
def terms (s : Session) : Terms :=
  { party := s.party
    keepalive := s.keepalive
    deadTimer := s.deadTimer
    peerKeepalive := s.peerKeepalive
    peerDeadTimer := s.peerDeadTimer }

/-- The flags of a session. -/
def standing (s : Session) : Standing :=
  { state := s.state
    connected := s.connected
    localOk := s.localOk
    remoteOk := s.remoteOk
    openRetries := s.openRetries }

end Session

namespace Progress

/-- The flags of a session at this point, unless it is closed. -/
def standing (σ : Progress) : Standing :=
  { state := σ.state
    connected := σ.connected
    localOk := σ.granted
    remoteOk := σ.grants
    openRetries := if σ.counters then 1 else 0 }

/-! ### What the moves do to a point -/

section Moves

variable {σ : Progress}

theorem unconnected_flags (h : σ.connected = false) :
    σ.said = [] ∧ σ.heard = [] ∧ σ.isUp = false ∧ σ.revises = false ∧ σ.counters = false ∧
      σ.grants = false := by
  revert σ
  decide

theorem connected_flags (h : σ.connected = true) :
    σ ≠ .unstarted ∧ σ.state ≠ .idle ∧ σ.state ≠ .tcpPending := by
  revert σ
  decide

theorem openWait_flags (h : σ.state = .openWait) :
    σ.connected = true ∧ σ.isUp = false ∧ σ.grants = false := by
  revert σ
  decide

theorem keepWait_flags (h : σ.state = .keepWait) : σ.connected = true ∧ σ.isUp = false := by
  revert σ
  decide

theorem grant_histories (h : σ.state = .openWait) :
    σ.grant.said = σ.said ++ [.assent] ∧ σ.grant.heard = σ.heard ++ [.offer] := by
  revert σ
  decide

theorem grant_flags (h : σ.state = .openWait) :
    σ.grant.connected = true ∧ σ.grant.revises = σ.revises ∧ σ.grant.counters = σ.counters ∧
      σ.grant.grantedAt = σ.heard.length ∧ σ.grant.grants = true ∧
      σ.grant.isUp = σ.granted := by
  revert σ
  decide

theorem grant_standing (h : σ.state = .openWait) :
    σ.grant.standing = { σ.standing with
      remoteOk := true, state := if σ.granted then .sessionUp else .keepWait } := by
  revert σ
  decide

theorem counter_histories (h : σ.state = .openWait) (h0 : σ.counters = false) :
    σ.counter.said = σ.said ++ [.counter] ∧ σ.counter.heard = σ.heard ++ [.offer] := by
  revert σ
  decide

theorem counter_flags (h : σ.state = .openWait) (h0 : σ.counters = false) :
    σ.counter.connected = true ∧ σ.counter.revises = σ.revises ∧ σ.counter.counters = true ∧
      σ.heard.length = 0 ∧ σ.said.length = 1 ∧ σ.counter.grants = false ∧
      σ.counter.isUp = false ∧ σ.granted = false := by
  revert σ
  decide

theorem counter_standing (h : σ.state = .openWait) (h0 : σ.counters = false) :
    σ.counter.standing = { σ.standing with openRetries := 1, state := .keepWait } := by
  revert σ
  decide

theorem assented_histories (h : σ.state = .keepWait) :
    σ.assented.said = σ.said ∧ σ.assented.heard = σ.heard ++ [.assent] := by
  revert σ
  decide

theorem assented_flags (h : σ.state = .keepWait) :
    σ.assented.connected = true ∧ σ.assented.revises = σ.revises ∧
      σ.assented.counters = σ.counters ∧ σ.assented.grants = σ.grants ∧
      σ.assented.isUp = σ.grants := by
  revert σ
  decide

theorem assented_standing (h : σ.state = .keepWait) :
    σ.assented.standing = { σ.standing with
      localOk := true, state := if σ.grants then .sessionUp else .openWait } := by
  revert σ
  decide

theorem revise_histories (h : σ.state = .keepWait) (h0 : σ.revises = false) :
    σ.revise.said = σ.said ++ [.offer] ∧ σ.revise.heard = σ.heard ++ [.counter] := by
  revert σ
  decide

theorem revise_flags (h : σ.state = .keepWait) (h0 : σ.revises = false) :
    σ.revise.connected = true ∧ σ.revise.revises = true ∧ σ.revise.counters = σ.counters ∧
      σ.heard.length = 1 ∧ σ.said.length = 2 ∧ σ.revise.grants = σ.grants ∧
      σ.revise.isUp = false := by
  revert σ
  decide

theorem revise_standing (h : σ.state = .keepWait) (h0 : σ.revises = false) :
    σ.revise.standing = { σ.standing with
      state := if σ.grants then .keepWait else .openWait } := by
  revert σ
  decide

/-- A session that comes up has both assents, and no other state has both. -/
theorem isUp_iff : σ.isUp = true ↔ σ.state = .sessionUp := by
  revert σ
  decide

end Moves

end Progress

namespace Terms

variable (k : Terms) (said heard : List Message)

/-- Our offer as it stands is a counter proposal that was heard and is acceptable to ourselves. -/
def Revised : Prop := ∃ m e o, heard[1]? = some m ∧ m.content = .ok (.error e (some o)) ∧
  k.check o = .acceptable ∧ k.keepalive = o.keepalive ∧ k.deadTimer = o.deadTimer

/-- The first offer that was heard was countered. -/
def Countered : Prop := ∃ m o, heard[0]? = some m ∧ m.content = .ok (.opening o) ∧
  k.check o = .negotiable ∧ said[1]? = some (k.party.counterMessage o)

/-- The peer's values are those of an acceptable offer, heard at the given place. -/
def Granted (i : Nat) : Prop := ∃ m o, heard[i]? = some m ∧ m.content = .ok (.opening o) ∧
  k.check o = .acceptable ∧ k.peerKeepalive = o.keepalive ∧ k.peerDeadTimer = o.deadTimer

end Terms

/-- What a side at the given point has said and heard, and what its terms have to do with it.  The
first thing it said is the proposal it is configured with, and its latest offer is of the terms as
they stand. -/
structure Talk (k : Terms) (σ : Progress) (said heard : List Message) : Prop where
  said_marks : said.map Message.mark = σ.said
  heard_marks : heard.map Message.mark = σ.heard
  first : σ.connected = true → said[0]? = some k.party.proposal.message
  latest : σ.connected = true → said[σ.openAt]? = some k.offer.message
  kept : σ.revises = false →
    k.keepalive = k.party.settings.keepalive ∧ k.deadTimer = k.party.settings.deadTimer
  revised : σ.revises = true → k.Revised heard
  countered : σ.counters = true → k.Countered said heard
  granted : σ.grants = true → k.Granted heard σ.grantedAt

/-! ### Growing histories -/

section Grown

variable {α : Type} {k : Terms} {said heard : List Message}

/-- What is found in a list is found when the list grows. -/
theorem getElem?_grown {l : List α} {i : Nat} {a : α} (h : l[i]? = some a) (l' : List α) :
    (l ++ l')[i]? = some a := by
  rw [List.getElem?_append_left (List.getElem?_eq_some_iff.mp h).1, h]

theorem getElem?_last (l : List α) (a : α) {i : Nat} (h : i = l.length) :
    (l ++ [a])[i]? = some a := by
  rw [h, List.getElem?_concat_length]

theorem Terms.Revised.grown (h : k.Revised heard) (l : List Message) : k.Revised (heard ++ l) := by
  obtain ⟨m, e, o, hm, hrest⟩ := h
  exact ⟨m, e, o, getElem?_grown hm l, hrest⟩

theorem Terms.Countered.grown (h : k.Countered said heard) (l l' : List Message) :
    k.Countered (said ++ l) (heard ++ l') := by
  obtain ⟨m, o, hm, ho, hv, hs⟩ := h
  exact ⟨m, o, getElem?_grown hm l', ho, hv, getElem?_grown hs l⟩

theorem Terms.Granted.grown {i : Nat} (h : k.Granted heard i) (l : List Message) :
    k.Granted (heard ++ l) i := by
  obtain ⟨m, o, hm, hrest⟩ := h
  exact ⟨m, o, getElem?_grown hm l, hrest⟩

end Grown

namespace Talk

variable {k : Terms} {σ : Progress} {said heard : List Message} {m : Message}

theorem length_said (h : Talk k σ said heard) : said.length = σ.said.length := by
  rw [← h.said_marks, List.length_map]

theorem length_heard (h : Talk k σ said heard) : heard.length = σ.heard.length := by
  rw [← h.heard_marks, List.length_map]

/-- Before there is a transport nothing is said. -/
theorem silent {σ : Progress} (hσ : σ.connected = false) (k : Terms)
    (hk : k.keepalive = k.party.settings.keepalive ∧ k.deadTimer = k.party.settings.deadTimer) :
    Talk k σ [] [] := by
  obtain ⟨h1, h2, -, h3, h4, h5⟩ := Progress.unconnected_flags hσ
  exact ⟨h1.symm, h2.symm, by simp [hσ], by simp [hσ], fun _ => hk, by simp [h3], by simp [h4],
    by simp [h5]⟩

/-- The first thing said is the offer. -/
theorem propose (k : Terms)
    (hk : k.keepalive = k.party.settings.keepalive ∧ k.deadTimer = k.party.settings.deadTimer) :
    Talk k .proposed [k.offer.message] [] where
  said_marks := by
    rw [List.map_singleton, Message.mark_of_content (Terms.content_offer _)]
    rfl
  heard_marks := rfl
  first _ := by
    rw [Party.proposal, ← hk.1, ← hk.2]
    rfl
  latest _ := rfl
  kept _ := hk
  revised := nofun
  countered := nofun
  granted := nofun

/-- An offer is accepted. -/
theorem grant (h : Talk k σ said heard) (hs : σ.state = .openWait) {o : OpenObject}
    (hm : m.content = .ok (.opening o)) (hc : k.check o = .acceptable) :
    Talk (k.grant o) σ.grant (said ++ [keepaliveMessage]) (heard ++ [m]) := by
  obtain ⟨hsaid, hheard⟩ := Progress.grant_histories hs
  obtain ⟨hcon, -, -⟩ := Progress.openWait_flags hs
  obtain ⟨-, hrev, hcou, hat, -, -⟩ := Progress.grant_flags hs
  -- our own offers stay where they are
  have hopen : σ.grant.openAt = σ.openAt := by rw [Progress.openAt, hrev, Progress.openAt]
  constructor
  · rw [hsaid, ← h.said_marks, List.map_append]
    rfl
  · rw [hheard, ← h.heard_marks, List.map_append, List.map_singleton, Message.mark_of_content hm]
    rfl
  · intro _
    exact getElem?_grown (h.first hcon) _
  · intro _
    rw [hopen]
    exact getElem?_grown (h.latest hcon) _
  · rw [hrev]
    exact h.kept
  · rw [hrev]
    intro hr
    exact (h.revised hr).grown _
  · rw [hcou]
    intro hcs
    exact (h.countered hcs).grown _ _
  · -- the accepted offer is the message just heard
    intro _
    exact ⟨m, o, getElem?_last heard m (by rw [hat, h.length_heard]), hm, hc, rfl, rfl⟩

/-- The first offer is countered. -/
theorem counter (h : Talk k σ said heard) (hs : σ.state = .openWait) (h0 : σ.counters = false)
    {o : OpenObject} (hm : m.content = .ok (.opening o)) (hc : k.check o = .negotiable) :
    Talk k σ.counter (said ++ [k.party.counterMessage o]) (heard ++ [m]) := by
  obtain ⟨hsaid, hheard⟩ := Progress.counter_histories hs h0
  obtain ⟨hcon, -, -⟩ := Progress.openWait_flags hs
  obtain ⟨-, hrev, -, hlen, hlen', hgr, -, -⟩ := Progress.counter_flags hs h0
  -- our own offers stay where they are
  have hopen : σ.counter.openAt = σ.openAt := by rw [Progress.openAt, hrev, Progress.openAt]
  constructor
  · rw [hsaid, ← h.said_marks, List.map_append, List.map_singleton,
      Message.mark_of_content (k.party.content_counterMessage o)]
    rfl
  · rw [hheard, ← h.heard_marks, List.map_append, List.map_singleton, Message.mark_of_content hm]
    rfl
  · intro _
    exact getElem?_grown (h.first hcon) _
  · intro _
    rw [hopen]
    exact getElem?_grown (h.latest hcon) _
  · rw [hrev]
    exact h.kept
  · rw [hrev]
    intro hr
    exact (h.revised hr).grown _
  · intro _
    exact ⟨m, o, getElem?_last heard m (by rw [h.length_heard, hlen]), hm, hc,
      getElem?_last said _ (by rw [h.length_said, hlen'])⟩
  · simp [hgr]

/-- The latest offer is accepted by the peer. -/
theorem assented (h : Talk k σ said heard) (hs : σ.state = .keepWait)
    (hm : m.content = .ok .keepalive) : Talk k σ.assented said (heard ++ [m]) := by
  obtain ⟨hsaid, hheard⟩ := Progress.assented_histories hs
  obtain ⟨hcon, -⟩ := Progress.keepWait_flags hs
  obtain ⟨-, hrev, hcou, hgr, -⟩ := Progress.assented_flags hs
  have hopen : σ.assented.openAt = σ.openAt := by rw [Progress.openAt, hrev, Progress.openAt]
  -- and so does the offer that we accepted, if we have
  have hat : σ.assented.grantedAt = σ.grantedAt := by
    rw [Progress.grantedAt, hcou, Progress.grantedAt]
  constructor
  · rw [hsaid, h.said_marks]
  · rw [hheard, ← h.heard_marks, List.map_append, List.map_singleton, Message.mark_of_content hm]
    rfl
  · intro _
    exact h.first hcon
  · intro _
    rw [hopen]
    exact h.latest hcon
  · rw [hrev]
    exact h.kept
  · rw [hrev]
    intro hr
    exact (h.revised hr).grown _
  · rw [hcou]
    intro hcs
    have := (h.countered hcs).grown [] [m]
    rwa [List.append_nil] at this
  · rw [hgr, hat]
    intro hg
    exact (h.granted hg).grown _

/-- A counter proposal is taken over and offered. -/
theorem revise (h : Talk k σ said heard) (hs : σ.state = .keepWait) (h0 : σ.revises = false)
    {e : ErrorObject} {o : OpenObject} (hm : m.content = .ok (.error e (some o)))
    (hc : k.check o = .acceptable) :
    Talk (k.revise o) σ.revise (said ++ [(k.revise o).offer.message]) (heard ++ [m]) := by
  obtain ⟨hsaid, hheard⟩ := Progress.revise_histories hs h0
  obtain ⟨hcon, -⟩ := Progress.keepWait_flags hs
  obtain ⟨-, hrev, hcou, hlen, hlen', hgr, -⟩ := Progress.revise_flags hs h0
  -- the offer that we accepted stays where it is, but our own latest one is new
  have hat : σ.revise.grantedAt = σ.grantedAt := by
    rw [Progress.grantedAt, hcou, Progress.grantedAt]
  constructor
  · rw [hsaid, ← h.said_marks, List.map_append, List.map_singleton,
      Message.mark_of_content (Terms.content_offer _)]
    rfl
  · rw [hheard, ← h.heard_marks, List.map_append, List.map_singleton, Message.mark_of_content hm]
    rfl
  · intro _
    exact getElem?_grown (h.first hcon) _
  · intro _
    exact getElem?_last said _ (by rw [Progress.openAt, hrev, h.length_said, hlen']; rfl)
  · simp [hrev]
  · intro _
    exact ⟨m, e, o, getElem?_last heard m (by rw [h.length_heard, hlen]), hm, hc, rfl, rfl⟩
  · rw [hcou]
    intro hcs
    exact (h.countered hcs).grown _ _
  · rw [hgr, hat]
    intro hg
    exact (h.granted hg).grown _

end Talk

end PathSession
