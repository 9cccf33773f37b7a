import PathSession.Proofs.Pair.Aftermath
import PathSession.Proofs.Pair.Course

/-!
# Delivery from end to end

What the collaborator of one side is handed are the messages that the collaborator of the other side
has submitted, in order and each once.  There is one exception: a side that waits for an answer in
vain says so to its peer and closes, and a peer that is up by then takes that notice for a message
of the other collaborator.

* `Agree.rest_prefix_later`: a side that is up has heard the negotiation, and what comes later;
* `Agree.delivered_prefix`, `Agree.delivered_eq`: what is delivered against what was submitted;
* `Course.submitted`, `Course.given`: what the collaborator of a side submits in a run;
* `Course.delivery`: both for every run, and `Course.delivery_not_prefix`: the exception happens.
-/

namespace PathSession

/-! ### Roles -/

namespace Role

variable {role other : Role} {m : Message}

/-- One role takes what the other hands on, if it can be read. -/
theorem takes_eq_forwards (hne : role ≠ other) {c : Content} (h : m.content = .ok c) :
    role.takes m = other.forwards m := by
  have hkind := Message.kind_of_content h
  cases role <;> cases other <;> first | exact absurd rfl hne | skip
  all_goals
    cases c with
    | data kind => cases kind <;> simp [takes, h, forwards, hkind, delivers, Content.kind]
    | _ => simp [takes, h, forwards, hkind, delivers, Content.kind]

/-- A CLOSE is for the session itself. -/
theorem takes_of_close (h : m.kind? = some .close) : role.takes m = false := by
  cases hm : m.content with
  | error e => simp [takes, hm]
  | ok c =>
    have hkind := Message.kind_of_content hm
    rw [Message.kind, h] at hkind
    cases c with
    | data kind =>
      obtain rfl : .close = kind := Except.ok.inj hkind
      cases role <;> simp [takes, hm, delivers]
    | close => simp [takes, hm]
    | opening | keepalive | error => cases hkind

/-- Nobody can tell the notice from a message of a collaborator. -/
theorem takes_keepWaitNotice : role.takes keepWaitNotice = true := by
  have hcontent : keepWaitNotice.content = .ok (.error (.establishment .keepWaitExpired) none) :=
    ErrorObject.content_message _ none nofun
  cases role <;> simp [takes, hcontent, delivers]

end Role

/-! ### Two sides -/

namespace Agree

variable {allowed : SessionEvent → Prop} {parties : Side → Party} {w : Side → Speaker}
variable {r : Side → Transcript} (h : Agree allowed parties w r) {x : Side}
include h

/-- A side that is up has heard what the other said in the negotiation, and then some of what it
said later. -/
theorem rest_prefix_later (hup : (r x).stage.isUp = true) :
    (r x).heard = (r x.other).said ∧ (r x).rest <+: (r x.other).later := by
  have hlen : (r x).heard.length = (r x.other).said.length := by
    rw [(h.told x).talk.length_heard, (h.told x.other).talk.length_said,
      Progress.heard_eq_of_isUp (h.meets x) (h.meets' x) hup]
  have heq := (h.heard_prefix_said x).eq_of_length hlen
  refine ⟨heq, ?_⟩
  have horder := h.order x
  rw [(h.told x).messages_eq, Account.sent, (h.told x.other).spoken.sent_eq, heq,
    List.prefix_append_right_inj] at horder
  exact horder

/-- The message after those of the negotiation, where the other side is up, is its assent. -/
theorem assent_of_head (hup : (r x).stage.isUp = false) (hup' : (r x.other).stage.isUp = true)
    {m : Message} (hm : (r x).rest.head? = some m) : m.mark = .assent := by
  obtain ⟨-, hsaid⟩ := Progress.of_up_alone (h.meets' x) (h.meets x) hup' hup
  have hmark : (r x.other).said[(r x).heard.length]?.map Message.mark = some .assent := by
    rw [← List.getElem?_map, (h.told x.other).talk.said_marks, hsaid,
      (h.told x).talk.length_heard, List.getElem?_concat_length]
  obtain ⟨m', hm', hassent⟩ := Option.map_eq_some_iff.mp hmark
  -- the two lists of messages agree at this place
  obtain ⟨t, ht⟩ := h.order x
  have hsent : (w x.other).account.sent[(r x).heard.length]? = some m' := by
    rw [Account.sent, (h.told x.other).spoken.sent_eq]
    exact getElem?_grown hm' _
  have hheard : (w x).account.messages[(r x).heard.length]? = some m := by
    rw [(h.told x).messages_eq, List.getElem?_append_right (Nat.le_refl _), Nat.sub_self,
      ← List.head?_eq_getElem?, hm]
  rw [← ht, getElem?_grown hheard t] at hsent
  exact Option.some.inj hsent ▸ hassent

variable {given : Side → List Message} (hrelay : ∀ x, Relay (parties x) (given x) (w x))
variable (hheeds : ∀ x, Heeds (w x) (r x))
variable (hroles : (parties x).role ≠ (parties x.other).role)
include hrelay hheeds hroles

omit h hheeds in
/-- What is attended to is delivered if the other role hands it on. -/
theorem delivered_eq_filter : Action.delivered (w x).account.actions =
    (w x).account.attended.filter (parties x.other).role.forwards := by
  rw [(hrelay x).delivered]
  refine List.filter_congr fun m hm => ?_
  obtain ⟨c, hc⟩ := (hrelay x).readable m hm
  exact Role.takes_eq_forwards hroles hc

/-- What is delivered at one side was submitted at the other, in order.  The exception is the notice
of a side that has not come up. -/
theorem delivered_prefix : Action.delivered (w x).account.actions <+: given x.other ∨
    Action.delivered (w x).account.actions = [keepWaitNotice] ∧
      .established ∉ (w x.other).account.actions ∧
      .close .keepWaitExpired ∈ (w x.other).account.actions := by
  by_cases hup : (r x).stage.isUp = true
  · have hattended := (hheeds x).attended.trans (h.rest_prefix_later hup).2
    have hother := h.told x.other
    by_cases hup' : (r x.other).stage.isUp = true
    · -- both came up, so what was said later is what the collaborator handed over
      left
      rw [delivered_eq_filter hrelay hroles]
      refine (hattended.filter _).trans ?_
      rw [hother.spoken.later_eq hup']
      exact (hrelay x.other).relayed
    · replace hup' : (r x.other).stage.isUp = false := by simpa using hup'
      have hnot : .established ∉ (w x.other).account.actions := by
        simp [hother.spoken.established, hup']
      have hnothing : (w x).account.attended.filter (parties x).role.takes = [] →
          Action.delivered (w x).account.actions <+: given x.other := by
        intro hnil
        rw [(hrelay x).delivered, hnil]
        exact List.nil_prefix
      cases hc : (w x.other).session.closed with
      | false =>
        rw [(hother.quiet hc hup').1, List.prefix_nil] at hattended
        exact .inl (hnothing (by rw [hattended]; rfl))
      | true =>
        obtain ⟨hgrants, -⟩ := Progress.of_up_alone (h.meets x) (h.meets' x) hup hup'
        rcases (hheeds x.other).parting hup' hgrants hc with hclose | ⟨hnotice, hexpired⟩ |
          ⟨m, hm, hmark⟩
        · refine .inl (hnothing (List.filter_eq_nil_iff.mpr fun m hm => ?_))
          simp [Role.takes_of_close (hclose m (hattended.subset hm))]
        · rw [hnotice, List.prefix_cons_iff] at hattended
          rcases hattended with hnil | ⟨more, hmore, hnil⟩
          · exact .inl (hnothing (by rw [hnil]; rfl))
          · rw [List.prefix_nil.mp hnil] at hmore
            refine .inr ⟨?_, hnot, hexpired⟩
            rw [(hrelay x).delivered, hmore, List.filter_cons_of_pos Role.takes_keepWaitNotice]
            rfl
        · refine absurd (h.assent_of_head (x := x.other) hup' ?_ hm) hmark
          rwa [Side.other_other]
  · left
    rw [(hrelay x).delivered, (hheeds x).unattended (by simpa using hup)]
    exact List.nil_prefix

/-- When both are up and all is heard, all that was submitted is delivered. -/
theorem delivered_eq (hup : ∀ y, (w y).session.state = .sessionUp)
    (hheard : (w x).account.messages = (w x.other).account.sent) :
    Action.delivered (w x).account.actions = given x.other := by
  obtain ⟨hstage, hc⟩ := (h.told x).isUp_of_state (hup x)
  obtain ⟨hstage', hc'⟩ := (h.told x.other).isUp_of_state (hup x.other)
  have hrest : (r x).rest = (r x.other).later := by
    rw [(h.told x).messages_eq, Account.sent, (h.told x.other).spoken.sent_eq,
      (h.rest_prefix_later hstage).1] at hheard
    exact List.append_cancel_left hheard
  have hphase := (hrelay x.other).phase fun hf => by
    have hidle := hf.1
    rw [hup x.other] at hidle
    cases hidle
  rw [delivered_eq_filter hrelay hroles, (hheeds x).all hc, hrest,
    (h.told x.other).spoken.later_eq hstage', ← (hrelay x.other).waiting hc',
    hphase.outbound_of_up (hup x.other)]
  exact (List.append_nil _).symm

end Agree

/-! ### Every run -/

/-- What hearing one message keeps, hearing several keeps. -/
theorem Speaker.hearAll_induction {P : Speaker → Prop}
    (hear : ∀ v m, v.session.Phase → P v → P (v.take (.network m))) {v : Speaker}
    (hphase : v.session.Phase) (hv : P v) (messages : List Message) : P (v.hearAll messages) := by
  induction messages generalizing v with
  | nil => exact hv
  | cons m more ih => exact ih (Session.phase_handle hphase _ _) (hear v m hphase hv)

theorem Relay.hearAll {party : Party} {given : List Message} {v : Speaker}
    (h : Relay party given v) (hphase : v.session.Phase) (messages : List Message) :
    Relay party given (v.hearAll messages) := by
  refine Speaker.hearAll_induction (fun v m hphase h => ?_) hphase h messages
  have hnext := h.take hphase (.network m)
  rwa [show v.session.submitted (.network m) = [] from rfl, List.append_nil] at hnext

namespace Course

/-- The messages that the collaborator of a side submits by a move. -/
def submitted (c : Course) (x : Side) : Move → List Message
  | .event y e => if y = x then (c.pair.get x).rig.session.submitted e else []
  | _ => []

/-- The messages that the collaborator of a side submits by several moves, oldest first. -/
def given (c : Course) (x : Side) : List Move → List Message
  | [] => []
  | m :: more => c.submitted x m ++ (c.move m).given x more

variable {allowed : SessionEvent → Prop} {parties : Side → Party} {c : Course}
variable {given : Side → List Message}

/-- One move, as each side sees it. -/
theorem relay_move (hallowed : ∀ e, allowed e → e.Ambient) (hrun : Run allowed parties c)
    (h : ∀ x, Relay (parties x) (given x) (c.speaker x)) {m : Move} (hm : c.Permits allowed m)
    (y : Side) : Relay (parties y) (given y ++ c.submitted y m) ((c.move m).speaker y) := by
  cases m with
  | start x =>
    rw [show c.submitted y (.start x) = [] from rfl, List.append_nil, move, speaker_play]
    by_cases hy : y = x
    · subst hy
      rw [Function.update_self]
      exact (h y).start hm
    · rw [Function.update_of_ne hy]
      exact h y
  | event x e =>
    rw [move, speaker_play]
    by_cases hy : y = x
    · subst hy
      have hnetwork : ∀ m, e ≠ .network m := by
        rintro m rfl
        exact hallowed _ hm.2
      rw [Function.update_self, Speaker.play_eq_take hnetwork, submitted, if_pos rfl]
      exact (h y).take ((h y).phase hm.1) e
    · rw [Function.update_of_ne hy, submitted, if_neg (Ne.symm hy), List.append_nil]
      exact h y
  | read x n =>
    have hcarries := hrun.carries hallowed
    obtain ⟨now, hspeaker⟩ := hcarries.exists_hearAll hallowed x n
    rw [show c.submitted y (.read x n) = [] from rfl, List.append_nil, hspeaker]
    by_cases hy : y = x
    · subst hy
      rw [Function.update_self]
      exact (h y).hearAll ((h y).phase (hcarries.not_fresh hallowed hm)) now
    · rw [Function.update_of_ne hy]
      exact h y

theorem relay_moves (hallowed : ∀ e, allowed e → e.Ambient) (hrun : Run allowed parties c)
    (h : ∀ x, Relay (parties x) (given x) (c.speaker x)) {ms : List Move}
    (hms : c.PermitsAll allowed ms) (x : Side) :
    Relay (parties x) (given x ++ c.given x ms) ((c.moves ms).speaker x) := by
  induction ms generalizing c given with
  | nil =>
    rw [Course.given, List.append_nil]
    exact h x
  | cons m more ih =>
    have hnext := ih (hrun.move m hms.1) (relay_move hallowed hrun h hms.1) hms.2
    rw [List.append_assoc] at hnext
    exact hnext

theorem relay_init (x : Side) : Relay (parties x) [] ((init parties).speaker x) := by
  have hspeaker : (init parties).speaker x = .init ((parties x).session x.initiates) := by
    cases x <;> rfl
  rw [hspeaker]
  exact .init ..

/-- **Delivery from end to end.**  Let a client and a server run over two wires in any way: events
of any kind but malformed octets come to both, and octets are read in pieces of any size.  What the
collaborator of one side is handed is always the first part of what the collaborator of the other
has submitted: of a client the requests, notifications and errors, at any time; of a server the
responses, notifications and errors, while it is up.  The one exception is the notice that nobody
has answered, which a side sends when it closes and has not come up; it is then all that is handed
over.  While both sides are up and nothing is on its way, all that was submitted is handed over. -/
theorem delivery {ms : List Move} (hroles : (parties .a).role ≠ (parties .b).role)
    (h : (init parties).PermitsAll SessionEvent.Ambient ms) (x : Side) :
    let c := (init parties).moves ms
    let delivered := Action.delivered (c.account x.other).actions
    let given := (init parties).given x ms
    (delivered <+: given ∨
        delivered = [keepWaitNotice] ∧ .established ∉ (c.account x).actions ∧
          .close .keepWaitExpired ∈ (c.account x).actions) ∧
      ((∀ y, (c.pair.get y).rig.session.state = .sessionUp) → (c.pair.get x).wire = [] →
        (c.pair.get x.other).pendingSize = 0 → delivered = given) := by
  intro c delivered given
  have hallowed : ∀ e : SessionEvent, e.Ambient → e.Ambient := fun _ he => he
  have hcarries := (Run.init.moves h).carries hallowed
  obtain ⟨r, hr⟩ := hcarries.exchange.agree hallowed
  have hheeds := fun y => hcarries.exchange.heeds hallowed y (r y) (hr.told y)
  have hrelay : ∀ y, Relay (parties y) ((init parties).given y ms) (c.speaker y) :=
    relay_moves hallowed .init relay_init h
  have hroles' : (parties x.other).role ≠ (parties x.other.other).role := by
    rw [Side.other_other]
    cases x
    · exact hroles.symm
    · exact hroles
  refine ⟨?_, fun hup hwire hpending => ?_⟩
  · have hprefix := hr.delivered_prefix hrelay hheeds hroles'
    rwa [Side.other_other] at hprefix
  · have hheard := hcarries.messages_eq (x := x.other) hallowed
      (by rwa [Side.other_other]) hpending
    have hall := hr.delivered_eq hrelay hheeds hroles' hup hheard
    rwa [Side.other_other] at hall

/-- Allowing more events permits more moves. -/
theorem PermitsAll.mono {allowed' : SessionEvent → Prop} (hle : ∀ e, allowed e → allowed' e)
    {ms : List Move} (h : c.PermitsAll allowed ms) : c.PermitsAll allowed' ms := by
  induction ms generalizing c with
  | nil => trivial
  | cons m more ih =>
    refine ⟨?_, ih h.2⟩
    have hm := h.1
    cases m with
    | start x | read x n => exact hm
    | event x e => exact ⟨hm.1, hle e hm.2⟩

/-- A request that is made before there is a transport, its response, and another request. -/
def posted : List Message :=
  [.make .request [1], .make .response [2], .make .request [3]]

/-- The handshake of `counteredMoves` with messages in both directions. -/
def messageMoves : List Move :=
  [.start .b, .start .a, .event .a (.fromLocal (.make .request [1])), .event .a .transportUp,
    .read .a none, .read .b (some 5), .read .b none, .read .a none, .read .b none, .read .a none,
    .read .b none, .event .b (.fromLocal (.make .response [2])),
    .event .a (.fromLocal (.make .request [3])), .read .a (some 3), .read .b none, .read .a none]

/-- A request that waited in the queue arrives first, and each message arrives once. -/
theorem delivery_countered :
    let c := (init countered).moves messageMoves
    (countered .a).role ≠ (countered .b).role ∧
      (init countered).PermitsAll SessionEvent.Ambient messageMoves ∧
      (∀ y, (c.pair.get y).rig.session.state = .sessionUp) ∧
      (∀ y, (c.pair.get y).wire = [] ∧ (c.pair.get y).pendingSize = 0) ∧
      Action.delivered (c.account .b).actions = [.make .request [1], .make .request [3]] ∧
      Action.delivered (c.account .a).actions = [.make .response [2]] := by
  intro c
  have hpermits : (init countered).PermitsAll
      (fun e => e = .transportUp ∨ e ∈ posted.map .fromLocal) messageMoves := by decide +kernel
  have hambient : (init countered).PermitsAll SessionEvent.Ambient messageMoves := by
    refine hpermits.mono fun e he => ?_
    rcases he with rfl | he
    · trivial
    · obtain ⟨m, hm, rfl⟩ := List.mem_map.mp he
      simp only [posted, List.mem_cons, List.not_mem_nil, or_false] at hm
      rcases hm with rfl | rfl | rfl
      exacts [⟨.request, [1], rfl⟩, ⟨.response, [2], rfl⟩, ⟨.request, [3], rfl⟩]
  have hroles : (countered .a).role ≠ (countered .b).role := by decide
  have hup : ∀ y, (c.pair.get y).rig.session.state = .sessionUp :=
    fun y => by cases y <;> decide +kernel
  have hempty : ∀ y, (c.pair.get y).wire = [] ∧ (c.pair.get y).pendingSize = 0 :=
    fun y => by cases y <;> decide +kernel
  have hall : ∀ x, Action.delivered (c.account x.other).actions
      = (init countered).given x messageMoves := fun x =>
    (delivery hroles hambient x).2 hup (hempty x).1 (hempty x.other).2
  exact ⟨hroles, hambient, hup, hempty, (hall .a).trans (by decide +kernel),
    (hall .b).trans (by decide +kernel)⟩

/-- A client and a server that accept each other's proposals. -/
def plain : Side → Party
  | .a => countered .a
  | .b => { countered .b with settings := {} }

/-- The client accepts the server's offer and gives up before it has read the server's assent. -/
def unansweredMoves : List Move :=
  [.start .b, .start .a, .event .a .transportUp, .read .a none, .read .b none,
    .event .a (.timerExpired .keepWait 3), .read .b none]

/-- The server is up when it reads that the client gave up, and hands the notice on although nobody
submitted it. -/
theorem delivery_not_prefix :
    let c := (init plain).moves unansweredMoves
    (plain .a).role = .client ∧ (plain .b).role = .server ∧
      (init plain).PermitsAll SessionEvent.Ambient unansweredMoves ∧
      Action.delivered (c.account .b).actions = [keepWaitNotice] ∧
      ¬ Action.delivered (c.account .b).actions <+: (init plain).given .a unansweredMoves := by
  intro c
  have hpermits : (init plain).PermitsAll
      (fun e => e = .transportUp ∨ e = .timerExpired .keepWait 3) unansweredMoves := by
    decide +kernel
  have hambient : (init plain).PermitsAll SessionEvent.Ambient unansweredMoves :=
    hpermits.mono fun e he => by rcases he with rfl | rfl <;> trivial
  have hdelivered : Action.delivered (c.account .b).actions = [keepWaitNotice] := by
    decide +kernel
  refine ⟨rfl, rfl, hambient, hdelivered, ?_⟩
  rw [hdelivered, show (init plain).given .a unansweredMoves = [] by decide +kernel,
    List.prefix_nil]
  exact List.cons_ne_nil _ _

end Course

end PathSession
