import PathSession.Proofs.Pair.Exchange
import PathSession.Proofs.Wire.Reassembly

/-!
# Runs of a pair over its wires

A course is a pair of sessions over two wires, with the accounts of both sides.  Its moves start a
side, tell it of an event, or let it read any number of octets.  However the octets are cut into
pieces, a run is an exchange of whole messages, and what is on its way is what was sent and not yet
handled.

* `Course`, `Course.Move`, `Course.move`: a pair at work;
* `Course.Run`: the runs in which a side reads once it has a transport;
* `Course.Carries`: the invariant of the wires;
* `Course.Run.carries`: every run is an exchange over wires that lose and invent nothing.
-/

namespace PathSession

/-! ### What a side hears of octets -/

/-- What a session under a script makes of messages, one after the other. -/
def Rig.hearings (r : Rig) : List Message → List Hearing
  | [] => []
  | m :: more =>
    let next := (r.play (.event (.network m))).1
    { before := r.session, message := m, after := next.session } :: next.hearings more

theorem Rig.message_hearings (r : Rig) (messages : List Message) :
    (r.hearings messages).map Hearing.message = messages := by
  induction messages generalizing r with
  | nil => rfl
  | cons m more ih => rw [hearings, List.map_cons, ih]

namespace Endpoint

/-- The octets waiting for the rest of their message. -/
def pending (e : Endpoint) : Octets := e.reassembly.pendingOf e.rig.session.peer

/-- What a side makes of octets that it reads. -/
def hearings (e : Endpoint) (data : Octets) : List Hearing :=
  match (e.reassembly.feed e.rig.session.peer data).result with
  | .ok messages => e.rig.hearings messages
  | .error _ => []

end Endpoint

/-- A pair, and the accounts of both sides. -/
structure Course where
  pair : Pair
  account : Side → Account

namespace Course

/-- What can happen to a pair. -/
inductive Move
  | start (x : Side)
  | event (x : Side) (e : SessionEvent)
  /-- a side reads up to `n` octets, or all there are -/
  | read (x : Side) (n : Option Nat)
  deriving Repr

/-- Two sessions that have not started. -/
def init (parties : Side → Party) : Course :=
  { pair :=
      { a := .init ((parties .a).session Side.a.initiates)
        b := .init ((parties .b).session Side.b.initiates) }
    account := fun _ => .empty }

/-- The octets that a side takes off the wire when it reads. -/
def taken (c : Course) (x : Side) (n : Option Nat) : Octets :=
  (c.pair.get x.other).wire.take (n.getD (c.pair.get x.other).wire.length)

/-- The course after a response of one side. -/
def record (c : Course) (x : Side) (result : Pair × Response) (hearings : List Hearing) : Course :=
  { pair := result.1
    account := Function.update c.account x
      { actions := (c.account x).actions ++ result.2.actions
        heard := (c.account x).heard ++ hearings } }

/-- One move. -/
def move (c : Course) : Move → Course
  | .start x => c.record x (c.pair.play x .start) []
  | .event x e => c.record x (c.pair.play x (.event e)) []
  | .read x n => c.record x (c.pair.read x n) ((c.pair.get x).hearings (c.taken x n))

/-- A side starts once, is told of allowed events from then on, and reads once it has a
transport. -/
def Permits (allowed : SessionEvent → Prop) (c : Course) : Move → Prop
  | .start x => (c.pair.get x).rig.session.Fresh
  | .event x e => ¬ (c.pair.get x).rig.session.Fresh ∧ allowed e
  | .read x _ => (c.pair.get x).rig.session.connected = true

instance (allowed : SessionEvent → Prop) [DecidablePred allowed] (c : Course) :
    (m : Move) → Decidable (c.Permits allowed m)
  | .start x => inferInstanceAs (Decidable (c.pair.get x).rig.session.Fresh)
  | .event x e => inferInstanceAs (Decidable (¬ (c.pair.get x).rig.session.Fresh ∧ allowed e))
  | .read x _ => inferInstanceAs (Decidable ((c.pair.get x).rig.session.connected = true))

/-- The courses that can come about, by any moves in any order. -/
inductive Run (allowed : SessionEvent → Prop) (parties : Side → Party) : Course → Prop
  | init : Run allowed parties (init parties)
  | move {c : Course} (h : Run allowed parties c) (m : Move) (hm : c.Permits allowed m) :
      Run allowed parties (c.move m)

/-- One side with its account. -/
def speaker (c : Course) (x : Side) : Speaker :=
  { rig := (c.pair.get x).rig, account := c.account x }

end Course

/-! ### The pair, side by side -/

namespace Pair

variable (p : Pair) (x : Side) (e : Endpoint)

@[simp] theorem get_set_self : (p.set x e).get x = e := by
  cases x <;> rfl

theorem get_set_of_ne {y : Side} (h : y ≠ x) : (p.set x e).get y = p.get y := by
  revert h
  cases x <;> cases y <;> simp [set, get]

end Pair

theorem Action.written_eq (actions : List Action) :
    Action.written actions = (Action.sent actions).flatMap Message.encode := by
  induction actions with
  | nil => rfl
  | cons a actions ih =>
    rw [Action.written, List.flatMap_cons]
    rw [Action.written] at ih
    cases a with
    | send m => rw [Action.sent_send, List.flatMap_cons, ih]
    | connect | deliver | armTimer | cancelTimer | established | close => exact ih

namespace Speaker

/-- A speaker that hears several messages. -/
def hearAll (v : Speaker) : List Message → Speaker
  | [] => v
  | m :: more => (v.hear m).hearAll more

/-- Hearing messages one by one is playing them all. -/
theorem hearAll_eq (v : Speaker) (messages : List Message) :
    let played := v.rig.playAll (messages.map fun m => .event (.network m))
    v.hearAll messages =
      { rig := played.1
        account :=
          { actions := v.account.actions ++ played.2.actions
            heard := v.account.heard ++ v.rig.hearings messages } } := by
  induction messages generalizing v with
  | nil =>
    show v = { v with account := { actions := _ ++ [], heard := _ ++ [] } }
    rw [List.append_nil, List.append_nil]
  | cons m more ih =>
    rw [hearAll, ih (v.hear m)]
    simp only [List.map_cons, Rig.playAll, Rig.hearings]
    show Speaker.mk _ (Account.mk ((_ ++ _) ++ _) ((_ ++ [_]) ++ _)) = _
    rw [List.append_assoc, List.append_assoc]
    rfl

end Speaker

/-! ### Carrying octets -/

namespace Endpoint

/-- What a side does with octets that frame well. -/
theorem receive_of_ok {e : Endpoint} {data : Octets} {messages : List Message}
    (h : (e.reassembly.feed e.rig.session.peer data).result = .ok messages) :
    let played := e.rig.playAll (messages.map fun m => .event (.network m))
    (e.receive data).1 =
        { rig := played.1
          reassembly := (e.reassembly.feed e.rig.session.peer data).next
          wire := e.wire ++ Action.written played.2.actions } ∧
      (e.receive data).2.actions = played.2.actions ∧
      e.hearings data = e.rig.hearings messages := by
  refine ⟨?_, ?_, ?_⟩
  · simp only [receive, h]
    rfl
  · simp only [receive, h]
    rfl
  · simp only [hearings, h]

end Endpoint

namespace Exchange

variable {allowed : SessionEvent → Prop} {parties : Side → Party} {w : Side → Speaker}
variable (hallowed : ∀ e, allowed e → e.Ambient) (h : Exchange allowed parties w)
include hallowed h

theorem peer_eq (x : Side) : (w x).session.peer = (parties x).peer := by
  obtain ⟨r, hr⟩ := h.agree hallowed
  exact congrArg Party.peer (hr.told x).party_eq

theorem fits (x : Side) : ∀ m ∈ (w x).account.sent, m.Fits Message.maxSize := by
  obtain ⟨r, hr⟩ := h.agree hallowed
  exact (hr.told x).fits

/-- Several messages are heard one by one. -/
theorem hearAll (x : Side) {messages : List Message} (hc : (w x).session.connected = true)
    (hm : (w x).account.messages ++ messages <+: (w x.other).account.sent) :
    Exchange allowed parties (Function.update w x ((w x).hearAll messages)) := by
  induction messages generalizing w with
  | nil =>
    rw [Speaker.hearAll, Function.update_eq_self]
    exact h
  | cons m more ih =>
    have hnext : (w x.other).account.sent[(w x).account.messages.length]? = some m := by
      obtain ⟨t, ht⟩ := hm
      rw [← ht, List.append_assoc, List.getElem?_append_right (Nat.le_refl _), Nat.sub_self]
      rfl
    -- the transport stays, so the rest can be heard as well
    have hc' : ((w x).hear m).session.connected = true := by
      obtain ⟨r, hr⟩ := h.agree hallowed
      obtain ⟨s, htold, hgrows⟩ :=
        (hr.told x).hear hallowed hc fun hcl => hr.next_mark x hcl hnext
      rw [htold.connected, hgrows.connected ((hr.told x).connected.symm.trans hc)]
    have := ih (h.hear x hc hnext) (by rwa [Function.update_self]) (by
      rw [Function.update_self, Function.update_of_ne (Side.other_ne x), Speaker.messages_hear,
        List.append_assoc]
      exact hm)
    rwa [Function.update_self, Function.update_idem] at this

end Exchange

namespace Course

/-- The invariant of the wires.  The messages on their way to a side were sent and are not yet
handled; the octets pending there and those on the wire are their encoding. -/
structure Carries (allowed : SessionEvent → Prop) (parties : Side → Party) (c : Course) :
    Prop where
  exchange : Exchange allowed parties c.speaker
  limit : ∀ x, (c.pair.get x).reassembly.limit = Message.maxSize
  flight : ∀ x, ∃ flight, (c.account x.other).sent = (c.account x).messages ++ flight ∧
    (c.pair.get x).reassembly.pendingOf (parties x).peer ++ (c.pair.get x.other).wire
      = flight.flatMap Message.encode

variable {allowed : SessionEvent → Prop} {parties : Side → Party} {c : Course}

theorem carries_init : Carries allowed parties (init parties) where
  exchange := by
    have hspeaker : (init parties).speaker
        = fun x => .init ((parties x).session x.initiates) := by
      funext x
      cases x <;> rfl
    rw [hspeaker]
    exact .init
  limit x := by cases x <;> rfl
  flight x := ⟨[], by rfl, by cases x <;> rfl⟩

/-- The wires after a side responded, writing what it sent. -/
theorem flight_record {x : Side} {result : Pair × Response} {hearings : List Hearing}
    (hother : (result.1.get x.other).reassembly = (c.pair.get x.other).reassembly)
    (hwire : (result.1.get x).wire = (c.pair.get x).wire ++ Action.written result.2.actions)
    (h : ∃ flight, (c.account x).sent = (c.account x.other).messages ++ flight ∧
      (c.pair.get x.other).reassembly.pendingOf (parties x.other).peer ++ (c.pair.get x).wire
        = flight.flatMap Message.encode) :
    ∃ flight, ((c.record x result hearings).account x).sent
        = ((c.record x result hearings).account x.other).messages ++ flight ∧
      (result.1.get x.other).reassembly.pendingOf (parties x.other).peer ++ (result.1.get x).wire
        = flight.flatMap Message.encode := by
  obtain ⟨flight, hsent, hencode⟩ := h
  refine ⟨flight ++ Action.sent result.2.actions, ?_, ?_⟩
  · simp only [record, Function.update_self, Function.update_of_ne (Side.other_ne x)]
    rw [← List.append_assoc, ← hsent]
    exact Action.sent_append ..
  · rw [hother, hwire, ← List.append_assoc, hencode, Action.written_eq, List.flatMap_append]

theorem speaker_record {x : Side} {result : Pair × Response} {hearings : List Hearing}
    {v : Speaker} (hrig : (result.1.get x).rig = v.rig)
    (hother : (result.1.get x.other).rig = (c.pair.get x.other).rig)
    (hactions : (c.account x).actions ++ result.2.actions = v.account.actions)
    (hheard : (c.account x).heard ++ hearings = v.account.heard) :
    (c.record x result hearings).speaker = Function.update c.speaker x v := by
  funext y
  by_cases hy : y = x
  · subst hy
    rw [Function.update_self, speaker]
    simp only [record, Function.update_self]
    rw [hrig, hactions, hheard]
  · obtain rfl := Side.eq_other hy
    rw [Function.update_of_ne hy, speaker]
    simp only [record, Function.update_of_ne hy]
    rw [hother]
    rfl

/-- The speakers after a stimulus other than octets. -/
theorem speaker_play (c : Course) (x : Side) (stimulus : Stimulus) :
    (c.record x (c.pair.play x stimulus) []).speaker
      = Function.update c.speaker x ((c.speaker x).play stimulus) := by
  have hself : (c.pair.play x stimulus).1.get x = ((c.pair.get x).playAll [stimulus]).1 :=
    Pair.get_set_self ..
  have hother : (c.pair.play x stimulus).1.get x.other = c.pair.get x.other :=
    Pair.get_set_of_ne _ _ _ (Side.other_ne x)
  refine speaker_record ?_ ?_ ?_ rfl
  · rw [hself]
    rfl
  · rw [hother]
  · show _ ++ (_ ++ []) = _
    rw [List.append_nil]
    rfl

/-- A stimulus other than octets. -/
theorem carries_play (h : Carries allowed parties c) (x : Side) {stimulus : Stimulus}
    (hexchange : Exchange allowed parties
      (Function.update c.speaker x ((c.speaker x).play stimulus))) :
    Carries allowed parties (c.record x (c.pair.play x stimulus) []) := by
  have hself : (c.pair.play x stimulus).1.get x = ((c.pair.get x).playAll [stimulus]).1 :=
    Pair.get_set_self ..
  have hother : (c.pair.play x stimulus).1.get x.other = c.pair.get x.other :=
    Pair.get_set_of_ne _ _ _ (Side.other_ne x)
  constructor
  · rwa [speaker_play]
  · intro y
    by_cases hy : y = x
    · subst hy
      exact (congrArg (fun e => e.reassembly.limit) hself).trans (h.limit y)
    · obtain rfl := Side.eq_other hy
      exact (congrArg (fun e => e.reassembly.limit) hother).trans (h.limit _)
  · intro y
    by_cases hy : y = x
    · subst hy
      obtain ⟨flight, hsent, hencode⟩ := h.flight y
      refine ⟨flight, ?_, ?_⟩
      · simp only [record, Function.update_self, Function.update_of_ne (Side.other_ne y)]
        simpa [Account.messages] using hsent
      · show ((c.pair.play y stimulus).1.get y).reassembly.pendingOf _
          ++ ((c.pair.play y stimulus).1.get y.other).wire = _
        rw [hself, hother]
        exact hencode
    · -- towards the other side there is more on the wire
      obtain rfl := Side.eq_other hy
      have := h.flight x.other
      rw [Side.other_other] at this ⊢
      refine flight_record (by rw [hother]) ?_ this
      rw [hself]
      rfl

/-- What reading does to the pair: the reader receives what it takes, and the rest stays. -/
theorem read_eq (c : Course) (x : Side) (n : Option Nat) :
    (c.pair.read x n).1.get x = ((c.pair.get x).receive (c.taken x n)).1 ∧
      (c.pair.read x n).2 = ((c.pair.get x).receive (c.taken x n)).2 ∧
      ∃ tail, c.taken x n ++ tail = (c.pair.get x.other).wire ∧
        (c.pair.read x n).1.get x.other = { c.pair.get x.other with wire := tail } := by
  have hreader : ∀ e, (c.pair.set x.other e).get x = c.pair.get x := fun e =>
    Pair.get_set_of_ne _ _ _ (Side.ne_other x)
  refine ⟨?_, ?_, _, List.take_append_drop _ _, ?_⟩
  · simp only [Pair.read, Pair.get_set_self, hreader]
    rfl
  · simp only [Pair.read, hreader]
    rfl
  · simp only [Pair.read]
    rw [Pair.get_set_of_ne _ _ _ (Side.other_ne x), Pair.get_set_self]

/-- What is read completes some of the messages on their way. -/
theorem Carries.completes (hallowed : ∀ e, allowed e → e.Ambient) (h : Carries allowed parties c)
    (x : Side) {n : Option Nat} {tail : Octets}
    (htail : c.taken x n ++ tail = (c.pair.get x.other).wire) :
    let fed := (c.pair.get x).reassembly.feed (parties x).peer (c.taken x n)
    ∃ now later, fed.result = .ok now ∧
      (c.account x.other).sent = (c.account x).messages ++ (now ++ later) ∧
      fed.next.pendingOf (parties x).peer ++ tail = later.flatMap Message.encode := by
  intro fed
  obtain ⟨flight, hsent, hencode⟩ := h.flight x
  have hfits : ∀ m ∈ flight, m.Fits (c.pair.get x).reassembly.limit := by
    intro m hm
    rw [h.limit x]
    refine h.exchange.fits hallowed x.other m ?_
    show m ∈ (c.account x.other).sent
    rw [hsent]
    exact List.mem_append_right _ hm
  obtain ⟨now, later, hresult, rfl, hrest⟩ :=
    Reassembly.feed_of_encoded (c.pair.get x).reassembly (parties x).peer (c.taken x n)
      hfits (show _ ++ (_ ++ tail) = _ by rw [htail, hencode])
  exact ⟨now, later, hresult, hsent, hrest⟩

/-- The speakers after a side has read octets that frame well. -/
theorem speaker_read {x : Side} {n : Option Nat} {now : List Message}
    (h : ((c.pair.get x).reassembly.feed (c.pair.get x).rig.session.peer (c.taken x n)).result
      = .ok now) :
    (c.move (.read x n)).speaker = Function.update c.speaker x ((c.speaker x).hearAll now) := by
  obtain ⟨hself, hresponse, tail, -, hother⟩ := read_eq c x n
  obtain ⟨hreceive, hactions, hhearings⟩ := Endpoint.receive_of_ok h
  have hall := Speaker.hearAll_eq (c.speaker x) now
  rw [move]
  refine speaker_record ?_ ?_ ?_ ?_
  · rw [hself, hreceive, hall]
    rfl
  · rw [hother]
  · rw [hresponse, hactions, hall]
    rfl
  · rw [hhearings, hall]
    rfl

/-- However octets are cut, whoever reads hears some messages. -/
theorem Carries.exists_hearAll (hallowed : ∀ e, allowed e → e.Ambient)
    (h : Carries allowed parties c) (x : Side) (n : Option Nat) :
    ∃ now, (c.move (.read x n)).speaker =
      Function.update c.speaker x ((c.speaker x).hearAll now) := by
  obtain ⟨-, -, tail, htail, -⟩ := read_eq c x n
  obtain ⟨now, later, hresult, -, -⟩ := h.completes hallowed x htail
  rw [← h.exchange.peer_eq hallowed x] at hresult
  exact ⟨now, speaker_read hresult⟩

/-- A session that has not started has no transport. -/
theorem Carries.not_fresh (hallowed : ∀ e, allowed e → e.Ambient) (h : Carries allowed parties c)
    {x : Side} (hc : (c.pair.get x).rig.session.connected = true) :
    ¬ (c.pair.get x).rig.session.Fresh := by
  obtain ⟨r, hr⟩ := h.exchange.agree hallowed
  intro hf
  obtain ⟨initiator, hs⟩ := (hr.told x).unstarted ((hr.told x).fresh_iff.mp hf)
  have hconnected : (c.speaker x).session.connected = true := hc
  rw [hs] at hconnected
  cases hconnected

theorem carries_read (hallowed : ∀ e, allowed e → e.Ambient) (h : Carries allowed parties c)
    (x : Side) (n : Option Nat) (hc : (c.pair.get x).rig.session.connected = true) :
    Carries allowed parties (c.move (.read x n)) := by
  obtain ⟨hself, hresponse, tail, htail, hother⟩ := read_eq c x n
  have hpeer : (c.pair.get x).rig.session.peer = (parties x).peer := h.exchange.peer_eq hallowed x
  obtain ⟨now, later, hresult, hsent, hrest⟩ := h.completes hallowed x htail
  rw [← hpeer] at hresult
  obtain ⟨hreceive, hactions, hhearings⟩ := Endpoint.receive_of_ok hresult
  constructor
  · rw [speaker_read hresult]
    refine h.exchange.hearAll hallowed x hc ?_
    show (c.account x).messages ++ now <+: (c.account x.other).sent
    rw [hsent, ← List.append_assoc]
    exact List.prefix_append _ _
  · intro y
    show ((c.pair.read x n).1.get y).reassembly.limit = _
    by_cases hy : y = x
    · subst hy
      rw [hself, hreceive, Reassembly.limit_feed]
      exact h.limit y
    · obtain rfl := Side.eq_other hy
      rw [hother]
      exact h.limit _
  · intro y
    by_cases hy : y = x
    · -- towards the reader, what it has not completed is left
      subst hy
      refine ⟨later, ?_, ?_⟩
      · simp only [move, record, Function.update_self, Function.update_of_ne (Side.other_ne y)]
        rw [hhearings, hsent, ← List.append_assoc]
        congr 1
        show _ = List.map Hearing.message (_ ++ _)
        rw [List.map_append, Rig.message_hearings]
        rfl
      · show ((c.pair.read y n).1.get y).reassembly.pendingOf _
          ++ ((c.pair.read y n).1.get y.other).wire = _
        rw [hself, hother, hreceive, hpeer]
        exact hrest
    · -- away from it, the answers join what was there
      obtain rfl := Side.eq_other hy
      have := h.flight x.other
      rw [Side.other_other] at this ⊢
      refine flight_record (by rw [hother]) ?_ this
      rw [hself, hreceive, hresponse, hactions]

theorem Run.carries (hallowed : ∀ e, allowed e → e.Ambient) (h : Run allowed parties c) :
    Carries allowed parties c := by
  induction h with
  | init => exact carries_init
  | move h m hm ih =>
    cases m with
    | start x => exact carries_play ih x (ih.exchange.start x hm)
    | event x e => exact carries_play ih x (ih.exchange.event x hm.1 hm.2)
    | read x n => exact carries_read hallowed ih x n hm

/-- When nothing is on its way to a side, it has handled everything that was sent. -/
theorem Carries.messages_eq (h : Carries allowed parties c)
    (hallowed : ∀ e, allowed e → e.Ambient) {x : Side} (hwire : (c.pair.get x.other).wire = [])
    (hpending : (c.pair.get x).pendingSize = 0) :
    (c.account x).messages = (c.account x.other).sent := by
  obtain ⟨flight, hsent, hencode⟩ := h.flight x
  have hpeer : (c.pair.get x).rig.session.peer = (parties x).peer := h.exchange.peer_eq hallowed x
  rw [hwire, ← hpeer, List.eq_nil_of_length_eq_zero hpending, List.nil_append] at hencode
  cases flight with
  | nil => rw [hsent, List.append_nil]
  | cons m flight =>
    have hlen := congrArg List.length hencode
    rw [List.flatMap_cons, List.length_append, Message.length_encode, List.length_nil] at hlen
    have := m.size_pos
    rw [Header.size] at this
    omega

/-! ### Several moves -/

/-- Several moves, one after the other. -/
def moves (c : Course) (ms : List Move) : Course := ms.foldl move c

/-- Moves that are permitted one after the other. -/
def PermitsAll (allowed : SessionEvent → Prop) (c : Course) : List Move → Prop
  | [] => True
  | m :: more => c.Permits allowed m ∧ (c.move m).PermitsAll allowed more

instance decidablePermitsAll (allowed : SessionEvent → Prop) [DecidablePred allowed] :
    (c : Course) → (ms : List Move) → Decidable (c.PermitsAll allowed ms)
  | _, [] => .isTrue trivial
  | c, m :: more =>
    have := decidablePermitsAll allowed (c.move m) more
    inferInstanceAs (Decidable (c.Permits allowed m ∧ (c.move m).PermitsAll allowed more))

theorem Run.moves (h : Run allowed parties c) {ms : List Move} (hm : c.PermitsAll allowed ms) :
    Run allowed parties (c.moves ms) := by
  induction ms generalizing c with
  | nil => exact h
  | cons m more ih => exact ih (h.move m hm.1) hm.2

/-- Allowing more events allows more runs. -/
theorem Run.mono {allowed' : SessionEvent → Prop} (hle : ∀ e, allowed e → allowed' e)
    (h : Run allowed parties c) : Run allowed' parties c := by
  induction h with
  | init => exact .init
  | move h m hm ih =>
    refine ih.move m ?_
    cases m with
    | start x | read x n => exact hm
    | event x e => exact ⟨hm.1, hle e hm.2⟩

/-- A client that proposes to be heard from every 30 seconds, and a server that asks for every
20. -/
def countered : Side → Party
  | .a =>
    { peer := .v4 ⟨10, 0, 0, 2⟩ 40001
      role := .client
      sessionId := 1
      settings := {} }
  | .b =>
    { peer := .v4 ⟨10, 0, 0, 1⟩ 4189
      role := .server
      sessionId := 2
      settings := { policy := { keepalive := ⟨1, 20⟩ } } }

/-- A whole handshake of the two, with some octets read by themselves. -/
def counteredMoves : List Move :=
  [.start .b, .start .a, .event .a .transportUp, .read .a none, .read .b (some 5), .read .b none,
    .read .a none, .read .b none, .read .a none, .read .b none]

end Course

end PathSession
