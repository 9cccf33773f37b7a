import PathSession.Proofs.Engine.Reservation
import PathSession.Proofs.Network.Ownership
import PathSession.Proofs.Session.Dialing

/-!
# Whose connection an event stems from

Events of connections and attempts name the peer only, once they have left the dispatcher, and wait
in the queue of a worker while sessions of the peer come and go.  A session still hears only of the
connections that it was told of and of the attempts that it asked for, with one exception: a client
can ask for a new session while the close of the last one has yet to get to the dispatcher, and what
the dispatcher hears of the old connection until then comes late, behind that request.

* `Mailroom`, `Mailroom.Reached`: the dispatcher and the sessions, with the origin of every task
  that is on its way;
* `source`, `Heard`, `InPlace`: the origins that fit the tasks of one peer, in the order in which
  they are handled;
* `Mailroom.Sound`: the invariant, one lemma for each step;
* `Mailroom.events_in_place`: a session handles no event of another's connection, unless it is late.
-/

namespace PathSession

/-! ### Acceptors ask for no connection -/

theorem Action.connect_mem_of_command? {as : List Action} {peer q : PeerAddress}
    (h : .connect q ∈ as.filterMap (Action.command? peer)) : .connect ∈ as := by
  obtain ⟨a, ha, hc⟩ := List.mem_filterMap.mp h
  cases a with
  | connect => exact ha
  | send | close => cases hc
  | _ => cases hc

/-- Where all sessions are acceptors they stay so, and ask for no connection. -/
theorem Handler.acceptors_process {h : Handler} (hl : h.Lives)
    (ha : ∀ p s, h.session? p = some s → s.initiator = false) (peer : PeerAddress)
    {e : SessionEvent} (he : e.creates = true → e = .accepted) :
    (∀ p s, (h.process peer e).next.session? p = some s → s.initiator = false) ∧
      ∀ q, .connect q ∉ (h.process peer e).commands := by
  have hcommands : ∀ {t : Turn}, t.Grounded →
      (h.process peer e).effects = t.actions.flatMap (Action.effects peer) →
        ∀ q, .connect q ∉ (h.process peer e).commands := by
    intro t ht heffects q hq
    rw [Handled.commands, heffects, Action.commands_effects] at hq
    exact ht.still (Action.connect_mem_of_command? hq)
  have hother : ∀ {t : Turn}, t.Grounded → (∀ s, (h.process peer e).next.session? peer = some s →
      s = t.session) → ∀ p s, (h.process peer e).next.session? p = some s →
        s.initiator = false := by
    intro t ht hself p s hs
    by_cases hp : p = peer
    · subst hp
      rw [hself s hs]
      exact ht.acceptor
    · exact ha p s (session?_process_of_ne hl hp ▸ hs)
  rcases process_self hl peer e with ⟨s, hs, heffects, hafter⟩ | ⟨-, hcreates, heffects, hafter⟩ |
    ⟨-, -, hnext, heffects⟩
  · have ht := Session.grounded_handle (hl peer s hs).1 (ha peer s hs) h.nextToken e
    refine ⟨hother ht fun s' hs' => ?_, hcommands ht heffects⟩
    rw [hafter] at hs'
    split at hs'
    · cases hs'
    · exact (Option.some.inj hs').symm
  · obtain rfl := he hcreates
    have ht : (h.opening peer (SessionEvent.accepted = .connectRequested)).Grounded :=
      Session.grounded_start (by simp [Session.init]) _
    exact ⟨hother ht fun s' hs' => (Option.some.inj (hafter ▸ hs')).symm, hcommands ht heffects⟩
  · rw [hnext, Handled.commands, heffects]
    exact ⟨ha, fun _ => List.not_mem_nil⟩

namespace Dispatcher

variable {d : Dispatcher}

/-- Only a connect starts an attempt. -/
theorem attempts_command {c : Command} (hc : ∀ p, c ≠ .connect p) :
    (d.command c).2.filterMap Deed.attempt? = [] := by
  rcases d.command_cases c with ⟨-, -, h⟩ | ⟨hclose, -, -⟩ | ⟨-, -, -, -, h⟩
  · exact h
  · cases c with
    | connect p => exact absurd rfl (hc p)
    | send p data =>
      simp only [command, send]
      split <;> rfl
    | close p => exact absurd rfl hclose
  · exact h

/-- What a report submits is about the peer of its connection, and that connection is there. -/
theorem tasks_report {peer : PeerAddress} {id : Nat} {r : Report} {t : Task}
    (ht : t ∈ (d.report peer id r).2.filterMap Deed.task?) :
    t.peer = peer ∧ d.connections.get? peer = some id := by
  unfold report at ht
  split at ht
  · simp [Deed.task?] at ht
  · rename_i hcurrent
    rw [ne_eq, not_not] at hcurrent
    refine ⟨?_, hcurrent⟩
    cases r with
    | data data =>
      simp only at ht
      split at ht
      · simp at ht
      · unfold receive at ht
        dsimp only at ht
        split at ht
        · obtain ⟨deed, hdeed, htask⟩ := List.mem_filterMap.mp ht
          rcases List.mem_append.mp hdeed with hdeed | hdeed
          · obtain ⟨entry, -, rfl⟩ := List.mem_map.mp hdeed
            cases htask
          · obtain ⟨m, -, rfl⟩ := List.mem_map.mp hdeed
            cases htask
            rfl
        · have hsubmitted : { peer, event := .framingFailed } = t := by simpa [Deed.task?] using ht
          rw [← hsubmitted]
    | lost loss =>
      have hsubmitted : { peer, event := .connectionLost } = t := by simpa [Deed.task?] using ht
      rw [← hsubmitted]

/-- What the end of an attempt submits is about its peer, and that attempt was under way. -/
theorem tasks_attempted {peer : PeerAddress} {id : Nat} {result : Except IoFault Unit} {t : Task}
    (ht : t ∈ (d.attempted peer id result).2.filterMap Deed.task?) :
    t.peer = peer ∧ d.connecting.get? peer = some id := by
  unfold attempted at ht
  split at ht
  · simp [Deed.task?] at ht
  · rename_i hcurrent
    rw [ne_eq, not_not] at hcurrent
    refine ⟨?_, hcurrent⟩
    cases result with
    | error fault =>
      have hsubmitted : { peer, event := .transportFailed } = t := by simpa [Deed.task?] using ht
      rw [← hsubmitted]
    | ok _ =>
      dsimp only at ht
      split at ht
      · have hsubmitted : { peer, event := .transportUp } = t := by simpa [Deed.task?] using ht
        rw [← hsubmitted]
      · have hsubmitted : { peer, event := .transportFailed } = t := by simpa [Deed.task?] using ht
        rw [← hsubmitted]

end Dispatcher

/-! ### Tasks with their origin -/

/-- A task on its way to its worker, with the connection or attempt that it stems from, if it stems
from one.  It is late if a close of its peer was still waiting when it was submitted. -/
structure Letter where
  duty : Duty
  origin : Option Nat
  late : Bool
  deriving DecidableEq

namespace Letter

def peer (x : Letter) : PeerAddress := x.duty.task.peer

def event (x : Letter) : SessionEvent := x.duty.task.event

/-- The origins that fit the tasks behind this one: where it can create a session only that of the
connection it reports, and otherwise the same as before. -/
def next (x : Letter) (fits : Nat → Prop) : Nat → Prop :=
  if x.event.creates then (x.duty.connection = some ·) else fits

end Letter

/-- The origins that fit the tasks behind all that wait. -/
def source (fits : Nat → Prop) (letters : List Letter) : Nat → Prop :=
  letters.foldl (fun fits x => x.next fits) fits

/-- Every task that waits stems from a fitting origin, or it is one of a client and late. -/
def Heard (role : Role) : (Nat → Prop) → List Letter → Prop
  | _, [] => True
  | fits, x :: letters =>
    (∀ id, x.origin = some id → fits id ∨ role = .client ∧ x.late = true) ∧
      Heard role (x.next fits) letters

section Origins

variable {role : Role} {fits fits' : Nat → Prop} {letters more : List Letter} {x : Letter}

theorem Letter.next_of_creates (hx : x.event.creates = true) :
    x.next fits = (x.duty.connection = some ·) := if_pos hx

theorem Letter.next_of_not_creates (hx : x.event.creates = false) : x.next fits = fits :=
  if_neg (by simp [hx])

theorem Letter.next_mono (h : ∀ id, fits id → fits' id) :
    ∀ id, x.next fits id → x.next fits' id := by
  unfold next
  split
  · exact fun _ hid => hid
  · exact h

theorem Letter.countP_creates (x : Letter) (q : PeerAddress) :
    ([x].filter (·.peer = q)).countP (·.event.creates) =
      if x.peer = q ∧ x.event.creates = true then 1 else 0 := by
  rw [List.countP_filter, List.countP_singleton]
  simp [and_comm]

theorem source_concat : source fits (letters ++ [x]) = x.next (source fits letters) :=
  List.foldl_concat ..

theorem source_mono (h : ∀ id, fits id → fits' id) :
    ∀ id, source fits letters id → source fits' letters id := by
  induction letters generalizing fits fits' with
  | nil => exact h
  | cons x letters ih => exact ih (Letter.next_mono h)

theorem source_append_of_not_creates (h : ∀ x ∈ more, x.event.creates = false) :
    source fits (letters ++ more) = source fits letters := by
  induction more generalizing letters with
  | nil => rw [List.append_nil]
  | cons x more ih =>
    obtain ⟨hx, hmore⟩ := List.forall_mem_cons.mp h
    rw [List.append_cons, ih hmore, source_concat, Letter.next_of_not_creates hx]

theorem countP_append_of_not_creates (h : ∀ x ∈ more, x.event.creates = false) :
    (letters ++ more).countP (·.event.creates) = letters.countP (·.event.creates) := by
  have hzero : more.countP (·.event.creates) = 0 :=
    List.countP_eq_zero.mpr fun x hx => by simp [h x hx]
  rw [List.countP_append, hzero, Nat.add_zero]

theorem heard_append :
    Heard role fits (letters ++ more) ↔
      Heard role fits letters ∧ Heard role (source fits letters) more := by
  induction letters generalizing fits with
  | nil => exact (and_iff_right trivial).symm
  | cons x letters ih =>
    rw [List.cons_append, Heard, ih, Heard, and_assoc]
    rfl

theorem heard_mono (h : ∀ id, fits id → fits' id) (hl : Heard role fits letters) :
    Heard role fits' letters := by
  induction letters generalizing fits fits' with
  | nil => trivial
  | cons x letters ih =>
    exact ⟨fun id hid => (hl.1 id hid).imp_left (h id), ih (Letter.next_mono h) hl.2⟩

/-- Tasks that stem from nothing fit anywhere. -/
theorem heard_of_no_origin (h : ∀ x ∈ letters, x.origin = none) : Heard role fits letters := by
  induction letters generalizing fits with
  | nil => trivial
  | cons x letters ih =>
    obtain ⟨hx, hletters⟩ := List.forall_mem_cons.mp h
    exact ⟨fun id hid => (by rw [hx] at hid; cases hid), ih hletters⟩

/-- Tasks that stem from one connection and create no session. -/
theorem heard_of_origin (hc : ∀ x ∈ letters, x.event.creates = false)
    (h : ∀ x ∈ letters, ∀ id, x.origin = some id → fits id ∨ role = .client ∧ x.late = true) :
    Heard role fits letters := by
  induction letters generalizing fits with
  | nil => trivial
  | cons x letters ih =>
    obtain ⟨hx, hletters⟩ := List.forall_mem_cons.mp hc
    obtain ⟨hxo, ho⟩ := List.forall_mem_cons.mp h
    exact ⟨hxo, ih hletters (Letter.next_of_not_creates hx ▸ ho)⟩

end Origins

/-! ### The events of one peer -/

/-- One peer: what waits for its worker is in place, and so is what its connection and its attempt
will be heard of next.  A client's may be out of place as long as a close of the peer waits. -/
structure InPlace (role : Role) (fits : Nat → Prop) (letters : List Letter) (closing : Bool)
    (connection attempt : Option Nat) : Prop where
  heard : Heard role fits letters
  linked : ∀ id, connection = some id ∨ attempt = some id →
    source fits letters id ∨ role = .client ∧ closing = true

namespace InPlace

variable {role : Role} {fits fits' : Nat → Prop} {letters more : List Letter} {x : Letter}
variable {closing closing' : Bool} {connection connection' attempt attempt' : Option Nat}

theorem init : InPlace role fits [] closing none none := ⟨trivial, by simp⟩

section Steps

variable (h : InPlace role fits letters closing connection attempt)
include h

theorem mono (hf : ∀ id, fits id → fits' id) (hc : closing = true → closing' = true) :
    InPlace role fits' letters closing' connection attempt :=
  ⟨heard_mono hf h.heard, fun id hid =>
    (h.linked id hid).imp (source_mono hf id) (.imp_right hc)⟩

/-- Connections and attempts end, and attempts become connections. -/
theorem yield (hconnection : ∀ id, connection' = some id → connection = some id ∨ attempt = some id)
    (hattempt : ∀ id, attempt' = some id → attempt = some id) :
    InPlace role fits letters closing connection' attempt' :=
  ⟨h.heard, fun id hid =>
    h.linked id (hid.elim (hconnection id) fun hid => .inr (hattempt id hid))⟩

/-- What is heard of the connection or the attempt is submitted. -/
theorem report (hc : ∀ x ∈ more, x.event.creates = false)
    (ho : ∀ x ∈ more, ∀ id, x.origin = some id →
      (connection = some id ∨ attempt = some id) ∧ x.late = closing) :
    InPlace role fits (letters ++ more) closing connection attempt := by
  refine ⟨heard_append.mpr ⟨h.heard, heard_of_origin hc fun x hx id hid => ?_⟩, ?_⟩
  · obtain ⟨hid', hlate⟩ := ho x hx id hid
    rw [hlate]
    exact h.linked id hid'
  · rw [source_append_of_not_creates hc]
    exact h.linked

/-- A peer connects. -/
theorem accepts {id : Nat} (hx : x.event.creates = true) (hid : x.duty.connection = some id)
    (ho : x.origin = none) : InPlace role fits (letters ++ [x]) closing (some id) none := by
  refine ⟨heard_append.mpr ⟨h.heard, heard_of_no_origin (by simpa using ho)⟩, fun i hi => .inl ?_⟩
  rw [source_concat, Letter.next_of_creates hx]
  rw [or_iff_left nofun] at hi
  exact hid.trans hi

/-- A session is asked for; what is left of the last one's connection is about to be closed. -/
theorem asks (ho : x.origin = none)
    (hclosing : ∀ id, connection = some id ∨ attempt = some id → role = .client ∧ closing = true) :
    InPlace role fits (letters ++ [x]) closing connection attempt :=
  ⟨heard_append.mpr ⟨h.heard, heard_of_no_origin (by simpa using ho)⟩,
    fun id hid => .inr (hclosing id hid)⟩

/-- An attempt is started. -/
theorem opens {id : Nat} (hid : source fits letters id ∨ role = .client ∧ closing = true) :
    InPlace role fits letters closing connection (some id) := by
  refine ⟨h.heard, fun i hi => ?_⟩
  rcases hi with hi | hi
  · exact h.linked i (.inl hi)
  · rwa [← Option.some.inj hi]

/-- The connection and the attempt are closed. -/
theorem closes : InPlace role fits letters closing' none none := ⟨h.heard, by simp⟩

end Steps

/-- The first task is handled. -/
theorem work (h : InPlace role fits (x :: letters) closing connection attempt)
    (hf : ∀ id, x.next fits id → fits' id) (hc : closing = true → closing' = true) :
    InPlace role fits' letters closing' connection attempt :=
  ⟨heard_mono hf h.heard.2, fun id hid =>
    (h.linked id hid).imp (source_mono hf id) (.imp_right hc)⟩

end InPlace

/-! ### The dispatcher and the sessions, with origins -/

namespace Switchboard

/-- Whether a close of a peer waits for the dispatcher. -/
def closing (w : Switchboard) (peer : PeerAddress) : Bool :=
  w.commands.any fun o => o.command = .close peer

theorem closing_eq_false_iff {w : Switchboard} {peer : PeerAddress} :
    w.closing peer = false ↔ ∀ o ∈ w.waiting peer, o.command ≠ .close o.command.peer := by
  simp only [closing, List.any_eq_false, decide_eq_true_eq, waiting, List.mem_filter]
  refine ⟨fun h o ho hc => h o ho.1 (ho.2 ▸ hc), fun h o ho hc => ?_⟩
  have hpeer : o.command.peer = peer := by rw [hc]; rfl
  exact h o ⟨ho, hpeer⟩ (hpeer ▸ hc)

/-- Where no close waits, the session whose word comes next is the present one. -/
theorem present_of_governs {present : Option Nat} {k : Nat} {waiting : List Issued}
    (ho : Orderly present waiting) (hk : Governs present k waiting)
    (hc : ∀ o ∈ waiting, o.command ≠ .close o.command.peer) : present = some k := by
  induction waiting generalizing k with
  | nil => exact hk
  | cons o more ih =>
    obtain ⟨hoc, hmore⟩ := List.forall_mem_cons.mp hc
    obtain rfl : o.session = k := hk
    exact ih ho.2 (ho.1 hoc) hmore

/-- Where no close waits, the present session says what is dispatched next. -/
theorem Ordered.present_of_next {w : Switchboard} (h : w.Ordered) {o : Issued} {more : List Issued}
    (ho : w.commands = o :: more) (hc : w.closing o.command.peer = false) :
    w.present o.command.peer = some o.session := by
  have hhead : Governs (w.present o.command.peer) o.session (w.waiting o.command.peer) := by
    rw [waiting, ho, List.filter_cons_of_pos (by simp)]
    rfl
  exact present_of_governs (h.settled _).orderly hhead (closing_eq_false_iff.mp hc)

theorem closing_dispatch {w : Switchboard} {o : Issued} {more : List Issued}
    (ho : w.commands = o :: more) {peer : PeerAddress} (hne : o.command ≠ .close peer) :
    (w.dispatch o more).closing peer = w.closing peer := by
  rw [closing, closing, ho, List.any_cons, decide_eq_false hne, Bool.false_or]
  rfl

/-- Where no connection was accepted, one that no session is left of is about to be closed. -/
theorem Ordered.closing_of_absent {w : Switchboard} (h : w.Ordered) (hcrossed : w.crossed = [])
    (hunreported : ∀ x ∈ w.duties, x.connection = none) {peer : PeerAddress}
    (hpresent : w.present peer = none) {id : Nat}
    (hid : w.dispatcher.connections.get? peer = some id ∨
      w.dispatcher.connecting.get? peer = some id) : w.closing peer = true := by
  have hsettled := h.settled peer
  obtain ⟨k, hk⟩ : ∃ k, Governs (w.present peer) k (w.waiting peer) := by
    rcases hid with hid | hid
    · rcases hsettled.connected id hid with hin | ⟨k, -, hk⟩ | ⟨-, -, x, hx, hreported⟩
      · rw [hcrossed] at hin
        cases hin
      · exact ⟨k, hk⟩
      · have hmem := List.mem_of_mem_filter (List.mem_of_mem_head? hx)
        rw [hunreported x hmem] at hreported
        cases hreported
    · obtain ⟨k, -, hk⟩ := hsettled.attempted id hid
      exact ⟨k, hk⟩
  by_contra hnot
  rw [Bool.not_eq_true, closing_eq_false_iff] at hnot
  rw [present_of_governs hsettled.orderly hk hnot] at hpresent
  cases hpresent

/-- Reserving a peer changes nothing that is on its way. -/
theorem Ordered.reserve {w : Switchboard} (h : w.Ordered) {peer : PeerAddress}
    {registry : Registry} (hr : w.handler.registry.reserve? peer = some registry) :
    ({ w with handler := { w.handler with registry } } : Switchboard).Ordered := by
  obtain ⟨-, rfl⟩ := Registry.reserve?_eq_some hr
  exact ⟨h.lives, h.pending, h.distinct, h.below, h.settled⟩

end Switchboard

/-- The dispatcher and the sessions of a node, with the origins of the tasks on their way and the
registrations in progress. -/
structure Mailroom where
  board : Switchboard
  /-- the tasks of the board, oldest first -/
  letters : List Letter
  /-- the connection that the outbox of the board stems from -/
  origin : Option Nat
  /-- reserved by a registration that is yet to ask for the session -/
  registering : List PeerAddress
  /-- the sessions, each with an accepted connection it was told of or an attempt it asked for -/
  made : List (Nat × Nat)

namespace Mailroom

open Switchboard (dutiesOf)

/-- Nothing has happened. -/
def init (role : Role) (settings : Settings) (firstId : UInt8)
    (maxConnection maxPackageSize : Nat) : Mailroom :=
  { board := .init role settings firstId maxConnection maxPackageSize
    letters := [], origin := none, registering := [], made := [] }

def role (w : Mailroom) : Role := w.board.handler.role

/-- A peer connects. -/
def accept (w : Mailroom) (peer : PeerAddress) : Mailroom :=
  let deeds := (w.board.dispatcher.accept peer).2
  { w with
    board := w.board.accept peer
    letters := w.letters ++ (dutiesOf deeds (deeds.filterMap Deed.registered?).head?).map
      fun duty => { duty, origin := none, late := false } }

/-- The dispatcher gets to a command. -/
def dispatch (w : Mailroom) (o : Issued) (more : List Issued) : Mailroom :=
  let deeds := (w.board.dispatcher.command o.command).2
  { w with
    board := w.board.dispatch o more
    made := w.made ++ (deeds.filterMap Deed.attempt?).map (o.session, ·) }

/-- A task as it is submitted now. -/
def letter (w : Mailroom) (origin : Option Nat) (duty : Duty) : Letter :=
  { duty, origin, late := w.board.closing duty.task.peer }

/-- The dispatcher gets to a report of a connection or to the end of an attempt, and submits the
first of its tasks. -/
def hear (w : Mailroom) (id : Nat) (after : Dispatcher × List Deed) : Mailroom :=
  { w with
    board := w.board.hear after
    letters := w.letters ++ ((dutiesOf after.2 none).take 1).map (w.letter (some id))
    origin := some id }

/-- The dispatcher submits the next of its tasks. -/
def post (w : Mailroom) (x : Duty) (more : List Duty) : Mailroom :=
  { w with board := w.board.post x more, letters := w.letters ++ [w.letter w.origin x] }

/-- A task is submitted from outside of the dispatcher. -/
def submit (w : Mailroom) (task : Task) : Mailroom :=
  let duty : Duty := { task, connection := none }
  { w with
    board := { w.board with duties := w.board.duties ++ [duty] }
    letters := w.letters ++ [{ duty, origin := none, late := false }] }

/-- A registration has reserved its peer. -/
def reserve (w : Mailroom) (peer : PeerAddress) (registry : Registry) : Mailroom :=
  { w with
    board := { w.board with handler := { w.board.handler with registry } }
    registering := w.registering ++ [peer] }

/-- A registration asks for the session, which ends the call. -/
def ask (w : Mailroom) (peer : PeerAddress) : Mailroom :=
  { w.submit ⟨peer, .connectRequested⟩ with registering := w.registering.erase peer }

/-- A worker handles a task, and the session that does so is told of the connection that the task
reports. -/
def work (w : Mailroom) (x : Letter) (letters : List Letter) : Mailroom :=
  { w with
    board := w.board.work x.duty (letters.map Letter.duty)
    letters
    made := w.made ++ x.duty.connection.toList.map (w.board.issuer x.duty, ·) }

/-- What can come about.  Only a server accepts connections, and only a client registers peers, by
reserving and then asking; all other tasks from outside create no session.  The dispatcher takes
what comes to it in any order, but commands as they were issued, and submits the tasks of one read
one by one before it takes anything else, so that a close may be issued between two of them.  A
worker takes the oldest task of its own, while those of other workers may wait. -/
inductive Reached (channel : PeerAddress → Nat) (start : Mailroom) : Mailroom → Prop
  | refl : Reached channel start start
  | accept {w : Mailroom} (h : Reached channel start w) (hfree : w.board.outbox = [])
      (hrole : w.role = .server) (peer : PeerAddress) : Reached channel start (w.accept peer)
  | dispatch {w : Mailroom} (h : Reached channel start w) (hfree : w.board.outbox = [])
      {o : Issued} {more : List Issued} (ho : w.board.commands = o :: more) :
      Reached channel start (w.dispatch o more)
  | report {w : Mailroom} (h : Reached channel start w) (hfree : w.board.outbox = [])
      (peer : PeerAddress) (id : Nat) (r : Report) :
      Reached channel start (w.hear id (w.board.dispatcher.report peer id r))
  | attempted {w : Mailroom} (h : Reached channel start w) (hfree : w.board.outbox = [])
      (peer : PeerAddress) (id : Nat) (result : Except IoFault Unit) :
      Reached channel start (w.hear id (w.board.dispatcher.attempted peer id result))
  | post {w : Mailroom} (h : Reached channel start w) {x : Duty} {more : List Duty}
      (hx : w.board.outbox = x :: more) : Reached channel start (w.post x more)
  | reserve {w : Mailroom} (h : Reached channel start w) (hrole : w.role = .client)
      {peer : PeerAddress} {registry : Registry}
      (hr : w.board.handler.registry.reserve? peer = some registry) :
      Reached channel start (w.reserve peer registry)
  | ask {w : Mailroom} (h : Reached channel start w) {peer : PeerAddress}
      (hp : peer ∈ w.registering) : Reached channel start (w.ask peer)
  | submit {w : Mailroom} (h : Reached channel start w) {task : Task}
      (ht : task.event.creates = false) : Reached channel start (w.submit task)
  | work {w : Mailroom} (h : Reached channel start w) {before after : List Letter} {x : Letter}
      (hx : w.letters = before ++ x :: after)
      (hfirst : ∀ y ∈ before, channel y.peer ≠ channel x.peer) :
      Reached channel start (w.work x (before ++ after))

/-! ### The invariant -/

/-- The origins that fit a task of a peer's present session. -/
def fits (w : Mailroom) (peer : PeerAddress) (id : Nat) : Prop :=
  ∀ k, w.board.present peer = some k → (k, id) ∈ w.made

/-- The tasks about a peer that wait, oldest first. -/
def mail (w : Mailroom) (peer : PeerAddress) : List Letter := w.letters.filter (·.peer = peer)

/-- The connections and attempts of sessions, and those that are yet to be reported to one. -/
def numbers (w : Mailroom) : List Nat :=
  w.made.map (·.2) ++ w.letters.filterMap (·.duty.connection)

/-- What holds of clients: no connection is accepted, and requests for sessions are reserved. -/
structure Dials (w : Mailroom) : Prop where
  crossed : w.board.crossed = []
  unreported : ∀ x ∈ w.letters, x.duty.connection = none
  pledge : ∀ peer, Pledge w.board.handler peer ((w.mail peer).countP (·.event.creates))
    (w.registering.count peer)

/-- What holds of servers: sessions are created for accepted connections, and none is asked for. -/
structure Listens (w : Mailroom) : Prop where
  unattempted : ∀ peer, w.board.dispatcher.connecting.get? peer = none
  unasked : ∀ o ∈ w.board.commands, ∀ peer, o.command ≠ .connect peer
  acceptors : ∀ peer s, w.board.handler.session? peer = some s → s.initiator = false
  accepted : ∀ x ∈ w.letters, x.event.creates = true → x.event = .accepted
  unregistered : w.registering = []

/-- Every peer's events are in place, and no two sessions have a connection or attempt in common.
What the dispatcher submits next stems from a connection or an attempt that is there. -/
structure Sound (w : Mailroom) : Prop where
  ordered : w.board.Ordered
  duties : w.board.duties = w.letters.map Letter.duty
  pending : ∀ x ∈ w.board.outbox, ∀ id, w.origin = some id →
    w.board.dispatcher.connections.get? x.task.peer = some id ∨
      w.board.dispatcher.connecting.get? x.task.peer = some id
  owned : w.board.owns ⊆ w.made
  distinct : w.numbers.Nodup
  below : ∀ id ∈ w.numbers, id < w.board.dispatcher.nextId
  dials : w.role = .client → w.Dials
  listens : w.role = .server → w.Listens
  inPlace : ∀ peer, InPlace w.role (w.fits peer) (w.mail peer) (w.board.closing peer)
    (w.board.dispatcher.connections.get? peer) (w.board.dispatcher.connecting.get? peer)

variable {w : Mailroom}

/-- No session is asked for beside a present one. -/
theorem Dials.not_creates (h : w.Dials) {peer : PeerAddress} {k : Nat}
    (hk : w.board.present peer = some k) : ∀ x ∈ w.mail peer, x.event.creates = false := by
  intro x hx
  by_contra hcreates
  rw [Bool.not_eq_false] at hcreates
  have hpos : 0 < (w.mail peer).countP (·.event.creates) :=
    List.countP_pos_iff.mpr ⟨x, hx, hcreates⟩
  have hnone := ((h.pledge peer).absent_of_pos (by omega)).2
  rw [Switchboard.present, hnone] at hk
  cases hk

/-- Servers start no attempt. -/
theorem Listens.attempts_eq_nil (h : w.Listens) {o : Issued} {more : List Issued}
    (ho : w.board.commands = o :: more) :
    (w.board.dispatcher.command o.command).2.filterMap Deed.attempt? = [] :=
  Dispatcher.attempts_command (h.unasked o (ho ▸ List.mem_cons_self))

/-- Tasks are submitted, by the dispatcher or from outside. -/
def deliver (w : Mailroom) (dispatcher : Dispatcher) (outbox : List Duty) (origin : Option Nat)
    (new : List Letter) : Mailroom :=
  { w with
    board := { w.board with dispatcher, outbox, duties := w.board.duties ++ new.map Letter.duty }
    letters := w.letters ++ new
    origin }

section Deliver

variable {dispatcher : Dispatcher} {outbox : List Duty} {origin : Option Nat} {new : List Letter}
variable (hnew : ∀ x ∈ new, x.event.creates = false ∧ x.duty.connection = none)
include hnew

/-- Tasks of sessions that are there change nothing for a client. -/
theorem Dials.deliver (h : w.Dials) : (w.deliver dispatcher outbox origin new).Dials := by
  refine ⟨h.crossed, fun x hx => ?_, fun q => ?_⟩
  · rcases List.mem_append.mp hx with hx | hx
    · exact h.unreported x hx
    · exact (hnew x hx).2
  · rw [mail, Mailroom.deliver, List.filter_append, countP_append_of_not_creates
      fun x hx => (hnew x (List.mem_of_mem_filter hx)).1]
    exact h.pledge q

/-- Tasks of sessions that are there change nothing for a server. -/
theorem Listens.deliver (h : w.Listens)
    (hconnecting : ∀ q i, dispatcher.connecting.get? q = some i →
      w.board.dispatcher.connecting.get? q = some i) :
    (w.deliver dispatcher outbox origin new).Listens := by
  refine ⟨fun q => ?_, h.unasked, h.acceptors, fun x hx hcreates => ?_, h.unregistered⟩
  · refine Option.eq_none_iff_forall_ne_some.mpr fun i hi => ?_
    have hsome := hconnecting q i hi
    rw [h.unattempted q] at hsome
    cases hsome
  · rcases List.mem_append.mp hx with hx | hx
    · exact h.accepted x hx hcreates
    · rw [(hnew x hx).1] at hcreates
      cases hcreates

end Deliver

/-- The task that is handled is the first one about its peer. -/
theorem mail_work {channel : PeerAddress → Nat} {before after : List Letter} {x : Letter}
    (hx : w.letters = before ++ x :: after)
    (hfirst : ∀ y ∈ before, channel y.peer ≠ channel x.peer) (q : PeerAddress) :
    w.mail q = [x].filter (·.peer = q) ++ (w.work x (before ++ after)).mail q := by
  rw [mail, hx, mail, Mailroom.work, List.filter_append, List.filter_append,
    ← List.singleton_append, List.filter_append]
  by_cases hq : x.peer = q
  · have hbefore : before.filter (·.peer = q) = [] := by
      refine List.filter_eq_nil_iff.mpr fun y hy hyq => hfirst y hy ?_
      rw [of_decide_eq_true hyq, hq]
    rw [hbefore, List.nil_append, List.nil_append]
  · rw [List.filter_cons_of_neg (by simpa using hq), List.filter_nil, List.nil_append,
      List.nil_append]

namespace Sound

theorem init {role : Role} {settings : Settings} {firstId : UInt8}
    {maxConnection maxPackageSize : Nat} :
    (init role settings firstId maxConnection maxPackageSize).Sound where
  ordered := .init
  duties := rfl
  pending := List.forall_mem_nil _
  owned := List.Subset.refl _
  distinct := List.nodup_nil
  below := List.forall_mem_nil _
  dials _ := ⟨rfl, List.forall_mem_nil _, fun peer => .init role settings firstId peer⟩
  listens _ :=
    { unattempted := fun _ => rfl
      unasked := List.forall_mem_nil _
      acceptors := fun _ _ hs => nomatch hs
      accepted := List.forall_mem_nil _
      unregistered := rfl }
  inPlace _ := .init

section Steps

variable (h : w.Sound)
include h

theorem accept (hfree : w.board.outbox = []) (hrole : w.role = .server) (peer : PeerAddress) :
    (w.accept peer).Sound := by
  have hordered := h.ordered.accept peer
  rcases w.board.dispatcher.accept_cases peer with ⟨deeds, hd, htasks, hregistered⟩ |
    ⟨deeds, hd, htasks, hregistered⟩
  · have hw : w.accept peer = w := by
      simp [Mailroom.accept, Switchboard.accept, hd, dutiesOf, htasks, hregistered]
    rw [hw]
    exact h
  · let x : Letter :=
      { duty := { task := ⟨peer, .accepted⟩, connection := some w.board.dispatcher.nextId }
        origin := none
        late := false }
    have hduties : (w.accept peer).board.duties = w.board.duties ++ [x.duty] := by
      simp [Mailroom.accept, Switchboard.accept, hd, dutiesOf, htasks, hregistered, x]
    have hletters : (w.accept peer).letters = w.letters ++ [x] := by
      simp [Mailroom.accept, hd, dutiesOf, htasks, hregistered, x]
    have hdispatcher : (w.accept peer).board.dispatcher =
        { w.board.dispatcher with
          connections := w.board.dispatcher.connections.insert peer w.board.dispatcher.nextId
          nextId := w.board.dispatcher.nextId + 1 } := by
      simp [Mailroom.accept, Switchboard.accept, hd]
    have hnumbers : (w.accept peer).numbers.Perm (w.numbers ++ [w.board.dispatcher.nextId]) := by
      rw [numbers, hletters, List.filterMap_append, ← List.append_assoc]
      exact List.Perm.refl _
    obtain ⟨hdistinct, hbelow⟩ := Switchboard.distinct_next h.distinct h.below hnumbers
    have hlistens := h.listens hrole
    refine ⟨hordered, ?_, ?_, h.owned, hdistinct, by rw [hdispatcher]; exact hbelow,
      fun hclient => ?_,
      fun _ => ⟨?_, hlistens.unasked, hlistens.acceptors, ?_, hlistens.unregistered⟩, fun q => ?_⟩
    · rw [hduties, hletters, List.map_append, h.duties]
      rfl
    · rw [show (w.accept peer).board.outbox = w.board.outbox from rfl, hfree]
      exact List.forall_mem_nil _
    · rw [show (w.accept peer).role = w.role from rfl, hrole] at hclient
      cases hclient
    · rw [hdispatcher]
      exact hlistens.unattempted
    · rw [hletters]
      intro y hy hcreates
      rcases List.mem_append.mp hy with hy | hy
      · exact hlistens.accepted y hy hcreates
      · rw [List.mem_singleton.mp hy]
        rfl
    · have hq := h.inPlace q
      rw [mail, hletters, List.filter_append, hdispatcher]
      by_cases hqp : q = peer
      · subst hqp
        rw [List.filter_cons_of_pos (by simp [x, Letter.peer])]
        dsimp only
        rw [Table.get?_insert_self, hlistens.unattempted]
        exact hq.accepts rfl rfl rfl
      · rw [List.filter_cons_of_neg (by simp [x, Letter.peer, Ne.symm hqp]), List.filter_nil,
          List.append_nil]
        dsimp only
        rw [Table.get?_insert_of_ne _ _ hqp]
        exact hq

theorem reserve (hrole : w.role = .client) {peer : PeerAddress} {registry : Registry}
    (hr : w.board.handler.registry.reserve? peer = some registry) :
    (w.reserve peer registry).Sound := by
  have hordered := h.ordered.reserve hr
  have hsame : ∀ q, (w.reserve peer registry).board.present q = w.board.present q := by
    obtain ⟨-, rfl⟩ := Registry.reserve?_eq_some hr
    exact fun q => rfl
  have hdials := h.dials hrole
  refine ⟨hordered, h.duties, h.pending, h.owned, h.distinct, h.below,
    fun _ => ⟨hdials.crossed, hdials.unreported, fun q => ?_⟩, fun hserver => ?_, fun q => ?_⟩
  · exact (hdials.pledge q).reserve hr
  · rw [show (w.reserve peer registry).role = w.role from rfl, hrole] at hserver
    cases hserver
  · have hfits : (w.reserve peer registry).fits q = w.fits q := by
      funext id
      rw [fits, hsame, fits]
      rfl
    rw [hfits]
    exact h.inPlace q

/-- Tasks that create no session are submitted, while connections and attempts may end and attempts
become connections. -/
theorem deliver {dispatcher : Dispatcher} {outbox : List Duty} {origin : Option Nat}
    {new : List Letter} (hordered : (w.deliver dispatcher outbox origin new).board.Ordered)
    (hconnections : ∀ q id, dispatcher.connections.get? q = some id →
      w.board.dispatcher.connections.get? q = some id ∨
        w.board.dispatcher.connecting.get? q = some id)
    (hconnecting : ∀ q id, dispatcher.connecting.get? q = some id →
      w.board.dispatcher.connecting.get? q = some id)
    (hnext : dispatcher.nextId = w.board.dispatcher.nextId)
    (hpending : ∀ x ∈ outbox, ∀ id, origin = some id →
      dispatcher.connections.get? x.task.peer = some id ∨
        dispatcher.connecting.get? x.task.peer = some id)
    (hquiet : ∀ x ∈ new, x.event.creates = false ∧ x.duty.connection = none)
    (hnew : ∀ x ∈ new, ∀ id, x.origin = some id →
      (w.board.dispatcher.connections.get? x.peer = some id ∨
        w.board.dispatcher.connecting.get? x.peer = some id) ∧ x.late = w.board.closing x.peer) :
    (w.deliver dispatcher outbox origin new).Sound := by
  have hnumbers : (w.deliver dispatcher outbox origin new).numbers = w.numbers := by
    rw [numbers, Mailroom.deliver, List.filterMap_append,
      List.filterMap_eq_nil_iff.mpr fun x hx => (hquiet x hx).2, List.append_nil, numbers]
  refine ⟨hordered, ?_, hpending, h.owned, hnumbers ▸ h.distinct, ?_,
    fun hrole => (h.dials hrole).deliver hquiet,
    fun hrole => (h.listens hrole).deliver hquiet hconnecting, fun q => ?_⟩
  · rw [Mailroom.deliver, h.duties, List.map_append]
  · rw [hnumbers]
    exact hnext ▸ h.below
  · rw [mail, Mailroom.deliver, List.filter_append]
    refine ((h.inPlace q).report (fun x hx => (hquiet x (List.mem_of_mem_filter hx)).1)
      fun x hx id hid => ?_).yield (hconnections q) (hconnecting q)
    obtain ⟨hin, hpeer⟩ := List.mem_filter.mp hx
    rw [← of_decide_eq_true hpeer]
    exact hnew x hin id hid

theorem submit {task : Task} (ht : task.event.creates = false) : (w.submit task).Sound := by
  let x : Letter := { duty := { task, connection := none }, origin := none, late := false }
  have hquiet : ∀ y ∈ [x], y.event.creates = false ∧ y.duty.connection = none :=
    List.forall_mem_singleton.mpr ⟨ht, rfl⟩
  have hordered : (w.deliver w.board.dispatcher w.board.outbox w.origin [x]).board.Ordered :=
    h.ordered.submit task
  exact h.deliver hordered (fun _ _ => .inl) (fun _ _ => id) rfl h.pending hquiet
    (List.forall_mem_singleton.mpr fun _ hid => nomatch hid)

theorem ask {peer : PeerAddress} (hp : peer ∈ w.registering) : (w.ask peer).Sound := by
  have hordered := h.ordered.submit ⟨peer, .connectRequested⟩
  have hrole : w.role = .client := by
    cases hrole : w.role with
    | client => rfl
    | server =>
      rw [(h.listens hrole).unregistered] at hp
      cases hp
  have hdials := h.dials hrole
  let x : Letter := { duty := { task := ⟨peer, .connectRequested⟩, connection := none }
                      origin := none
                      late := false }
  have hnumbers : (w.ask peer).numbers = w.numbers := by
    simp [numbers, Mailroom.ask, Mailroom.submit, List.filterMap_append]
  have hmail : ∀ q, (w.ask peer).mail q = w.mail q ++ [x].filter (·.peer = q) :=
    fun q => List.filter_append ..
  refine ⟨hordered, ?_, h.pending, h.owned, hnumbers ▸ h.distinct, hnumbers ▸ h.below,
    fun _ => ⟨hdials.crossed, fun y hy => ?_, fun q => ?_⟩, fun hserver => ?_, fun q => ?_⟩
  · simp [Mailroom.ask, Mailroom.submit, h.duties]
  · rcases List.mem_append.mp hy with hy | hy
    · exact hdials.unreported y hy
    · rw [List.mem_singleton.mp hy]
  · rw [hmail, List.countP_append, Letter.countP_creates]
    exact (hdials.pledge q).ask hp rfl
  · rw [show (w.ask peer).role = w.role from rfl, hrole] at hserver
    cases hserver
  · rw [hmail]
    by_cases hqp : q = peer
    · subst hqp
      rw [List.filter_cons_of_pos (by simp [x, Letter.peer])]
      -- there is no session, so that what is left of the last one is about to be closed
      have hcallers := List.count_pos_iff.mpr hp
      have hnone := ((hdials.pledge q).absent_of_pos (by omega)).2
      refine (h.inPlace q).asks rfl fun id hid => ⟨hrole, ?_⟩
      refine h.ordered.closing_of_absent hdials.crossed (fun y hy => ?_) ?_ hid
      · rw [h.duties] at hy
        obtain ⟨y', hy', rfl⟩ := List.mem_map.mp hy
        exact hdials.unreported y' hy'
      · rw [Switchboard.present, hnone]
        rfl
    · rw [List.filter_cons_of_neg (by simp [x, Letter.peer, Ne.symm hqp]), List.filter_nil,
        List.append_nil]
      exact h.inPlace q

theorem hear {peer : PeerAddress} {id : Nat} {after : Dispatcher × List Deed}
    (hy : w.board.dispatcher.Yields after)
    (ht : ∀ t ∈ after.2.filterMap Deed.task?, t.peer = peer ∧
      (w.board.dispatcher.connections.get? peer = some id ∨
        w.board.dispatcher.connecting.get? peer = some id)) : (w.hear id after).Sound := by
  have htasks : ∀ x ∈ dutiesOf after.2 none, (x.task.event.creates = false ∧ x.connection = none) ∧
      (w.board.dispatcher.connections.get? x.task.peer = some id ∨
        w.board.dispatcher.connecting.get? x.task.peer = some id) := by
    intro x hx
    obtain ⟨t, htask, rfl⟩ := List.mem_map.mp hx
    obtain ⟨rfl, hcurrent⟩ := ht t htask
    exact ⟨⟨hy.tasks t htask, rfl⟩, hcurrent⟩
  have hduties : (((dutiesOf after.2 none).take 1).map (w.letter (some id))).map Letter.duty =
      (dutiesOf after.2 none).take 1 := by
    rw [List.map_map]
    exact List.map_id _
  have hhear : w.hear id after = w.deliver after.1 ((dutiesOf after.2 none).drop 1) (some id)
      (((dutiesOf after.2 none).take 1).map (w.letter (some id))) := by
    rw [Mailroom.deliver, hduties]
    rfl
  have hordered : (w.hear id after).board.Ordered := h.ordered.hear hy
  rw [hhear] at hordered ⊢
  refine h.deliver hordered hy.connections hy.connecting hy.nextId ?_ ?_ ?_
  · intro x hx i hi
    obtain rfl := Option.some.inj hi
    have hmore : (after.2.filterMap Deed.task?).drop 1 ≠ [] := by
      rw [dutiesOf, ← List.map_drop] at hx
      exact fun hnil => List.not_mem_nil (hnil ▸ hx : x ∈ List.map _ [])
    obtain ⟨hconnections, hconnecting⟩ := hy.kept hmore
    rw [hconnections, hconnecting]
    exact (htasks x (List.mem_of_mem_drop hx)).2
  · intro x hx
    obtain ⟨duty, hduty, rfl⟩ := List.mem_map.mp hx
    exact (htasks duty (List.mem_of_mem_take hduty)).1
  · intro x hx i hi
    obtain ⟨duty, hduty, rfl⟩ := List.mem_map.mp hx
    obtain rfl := Option.some.inj hi
    exact ⟨(htasks duty (List.mem_of_mem_take hduty)).2, rfl⟩

theorem post {x : Duty} {more : List Duty} (hx : w.board.outbox = x :: more) :
    (w.post x more).Sound := by
  obtain ⟨⟨hconnection, hcreates⟩, -⟩ := List.forall_mem_cons.mp (hx ▸ h.ordered.pending)
  obtain ⟨hcurrent, hmore⟩ := List.forall_mem_cons.mp (hx ▸ h.pending)
  have hquiet : ∀ y ∈ [w.letter w.origin x], y.event.creates = false ∧ y.duty.connection = none :=
    List.forall_mem_singleton.mpr ⟨hcreates, hconnection⟩
  let posted := w.deliver w.board.dispatcher more w.origin [w.letter w.origin x]
  have hordered : posted.board.Ordered := h.ordered.post hx
  exact h.deliver hordered (fun _ _ => .inl) (fun _ _ => id) rfl hmore hquiet
    (List.forall_mem_singleton.mpr fun id hid => ⟨hcurrent id hid, rfl⟩)

theorem numbers_dispatch (o : Issued) (more : List Issued) :
    (w.dispatch o more).numbers.Nodup ∧
      ∀ id ∈ (w.dispatch o more).numbers, id < (w.dispatch o more).board.dispatcher.nextId := by
  have hnext : (w.dispatch o more).board.dispatcher.nextId
      = (w.board.dispatcher.command o.command).1.nextId := rfl
  have hsame : (w.board.dispatcher.command o.command).2.filterMap Deed.attempt? = [] →
      (w.dispatch o more).numbers = w.numbers := by
    intro hattempts
    rw [numbers, Mailroom.dispatch, hattempts, List.map_nil, List.append_nil, numbers]
  rw [hnext]
  rcases w.board.dispatcher.command_cases o.command with ⟨-, hd, hattempts⟩ | ⟨-, hd, hattempts⟩ |
    ⟨-, -, -, hd, hattempts⟩
  · rw [hsame hattempts, hd]
    exact ⟨h.distinct, h.below⟩
  · rw [hd]
    refine Switchboard.distinct_next h.distinct h.below ?_
    rw [numbers, Mailroom.dispatch, hattempts, List.map_append, List.append_assoc, numbers,
      List.append_assoc]
    exact List.Perm.append_left _ List.perm_append_comm
  · rw [hsame hattempts, hd]
    exact ⟨h.distinct, h.below⟩

omit h in
/-- A connection or an attempt keeps fitting its session. -/
theorem fits_dispatch (o : Issued) (more : List Issued) (q : PeerAddress) :
    ∀ id, w.fits q id → (w.dispatch o more).fits q id :=
  fun _ hid k hk => List.mem_append_left _ (hid k hk)

/-- An attempt of a client fits what its session is told next, if no close waits. -/
theorem source_dispatch (hrole : w.role = .client) {o : Issued} {more : List Issued}
    (ho : w.board.commands = o :: more)
    (hattempts : (w.board.dispatcher.command o.command).2.filterMap Deed.attempt?
      = [w.board.dispatcher.nextId])
    (hwaits : w.board.closing o.command.peer = false) :
    source ((w.dispatch o more).fits o.command.peer) (w.mail o.command.peer)
      w.board.dispatcher.nextId := by
  have hpresent := h.ordered.present_of_next ho hwaits
  rw [← List.nil_append (w.mail _),
    source_append_of_not_creates ((h.dials hrole).not_creates hpresent)]
  intro k hk
  obtain rfl : o.session = k := Option.some.inj (hpresent.symm.trans hk)
  rw [Mailroom.dispatch, hattempts]
  exact List.mem_append_right _ (List.mem_singleton.mpr rfl)

theorem inPlace_dispatch {o : Issued} {more : List Issued} (ho : w.board.commands = o :: more)
    (q : PeerAddress) : InPlace w.role ((w.dispatch o more).fits q) (w.mail q)
      ((w.dispatch o more).board.closing q)
      ((w.dispatch o more).board.dispatcher.connections.get? q)
      ((w.dispatch o more).board.dispatcher.connecting.get? q) := by
  have hfits := fits_dispatch (w := w) o more q
  have hclosing : o.command ≠ .close q →
      (w.dispatch o more).board.closing q = w.board.closing q := Switchboard.closing_dispatch ho
  have hq := h.inPlace q
  show InPlace _ _ _ _ ((w.board.dispatcher.command o.command).1.connections.get? q)
    ((w.board.dispatcher.command o.command).1.connecting.get? q)
  rcases w.board.dispatcher.command_cases o.command with ⟨hc, hd, -⟩ | ⟨hc, hd, hattempts⟩ |
    ⟨hc, hconnections, hconnecting, -, -⟩
  · have hne : o.command ≠ .close q := fun hclose => hc (by rw [hclose]; rfl)
    rw [hd, hclosing hne]
    exact hq.mono hfits id
  · have hne : o.command ≠ .close q := fun hclose => hc (by rw [hclose]; rfl)
    rw [hd]
    by_cases hqp : q = o.command.peer
    · subst hqp
      dsimp only
      rw [Table.get?_insert_self]
      refine (hq.mono hfits fun hclosing' => (hclosing hne).trans hclosing').opens ?_
      cases hrole : w.role with
      | server =>
        rw [(h.listens hrole).attempts_eq_nil ho] at hattempts
        cases hattempts
      | client =>
        rw [hclosing hne]
        cases hwaits : w.board.closing o.command.peer with
        | true => exact .inr ⟨rfl, rfl⟩
        | false => exact .inl (h.source_dispatch hrole ho hattempts hwaits)
    · dsimp only
      rw [Table.get?_insert_of_ne _ _ hqp, hclosing hne]
      exact hq.mono hfits id
  · rw [hconnections, hconnecting]
    by_cases hqp : q = o.command.peer
    · subst hqp
      rw [Table.get?_erase_self, Table.get?_erase_self]
      exact (hq.mono hfits id).closes
    · have hne : o.command ≠ .close q := fun hclose => hqp (by rw [hclose]; rfl)
      rw [Table.get?_erase_of_ne _ hqp, Table.get?_erase_of_ne _ hqp, hclosing hne]
      exact hq.mono hfits id

theorem dispatch (hfree : w.board.outbox = []) {o : Issued} {more : List Issued}
    (ho : w.board.commands = o :: more) : (w.dispatch o more).Sound := by
  have hordered := h.ordered.dispatch ho
  obtain ⟨hdistinct, hbelow⟩ := h.numbers_dispatch o more
  refine ⟨hordered, h.duties, ?_, ?_, hdistinct, hbelow, fun hrole => ?_, fun hrole => ?_,
    h.inPlace_dispatch ho⟩
  · rw [show (w.dispatch o more).board.outbox = w.board.outbox from rfl, hfree]
    exact List.forall_mem_nil _
  · exact List.append_subset.mpr ⟨List.subset_append_of_subset_left _ h.owned,
      List.subset_append_right _ _⟩
  · have hdials := h.dials hrole
    exact ⟨hdials.crossed, hdials.unreported, hdials.pledge⟩
  · have hlistens := h.listens hrole
    refine ⟨fun q => ?_, fun o' ho' => hlistens.unasked o' (ho ▸ List.mem_cons_of_mem _ ho'),
      hlistens.acceptors, hlistens.accepted, hlistens.unregistered⟩
    show (w.board.dispatcher.command o.command).1.connecting.get? q = none
    rcases w.board.dispatcher.command_cases o.command with ⟨-, hd, -⟩ | ⟨-, -, hattempts⟩ |
      ⟨-, -, hconnecting, -, -⟩
    · rw [hd]
      exact hlistens.unattempted q
    · rw [hlistens.attempts_eq_nil ho] at hattempts
      cases hattempts
    · rw [hconnecting, Table.get?_erase, hlistens.unattempted]
      split <;> rfl

section Work

variable {channel : PeerAddress → Nat} {before after : List Letter} {x : Letter}
variable (hx : w.letters = before ++ x :: after)
include hx

theorem numbers_work : (w.work x (before ++ after)).numbers.Nodup ∧
    ∀ id ∈ (w.work x (before ++ after)).numbers, id < w.board.dispatcher.nextId := by
  have hperm : w.numbers.Perm (w.work x (before ++ after)).numbers := by
    rw [numbers, hx, numbers, Mailroom.work, List.map_append, List.map_map,
      show (·.2) ∘ (w.board.issuer x.duty, ·) = (id : Nat → Nat) from rfl, List.map_id,
      List.append_assoc, List.filterMap_append, List.filterMap_append, List.filterMap_cons]
    refine List.Perm.append_left _ ?_
    cases x.duty.connection with
    | none => exact List.Perm.refl _
    | some id => exact List.perm_middle
  exact ⟨hperm.nodup_iff.mp h.distinct, fun id hid => h.below id (hperm.mem_iff.mpr hid)⟩

omit hx in
/-- What fits behind a task fits the session that handled it. -/
theorem fits_work (letters : List Letter) :
    ∀ id, x.next (w.fits x.peer) id → (w.work x letters).fits x.peer id := by
  intro id hid k hk
  have hpresent : (w.work x letters).board.present x.peer = _ :=
    w.board.present_work x.duty (letters.map Letter.duty)
  rw [hpresent] at hk
  split at hk
  · rename_i hthere
    obtain rfl : w.board.issuer x.duty = k := Option.some.inj hk
    cases hcreates : x.event.creates with
    | true =>
      rw [Letter.next_of_creates hcreates] at hid
      refine List.mem_append_right _ ?_
      rw [hid]
      exact List.mem_singleton.mpr rfl
    | false =>
      -- the session was there before
      rw [Letter.next_of_not_creates hcreates] at hid
      refine List.mem_append_left _ (hid _ ?_)
      cases hs : w.board.handler.session? x.peer with
      | none =>
        have hnext := (Handler.process_of_not_creates h.ordered.lives hs hcreates).1
        rw [show w.board.handler.process x.duty.task.peer x.duty.task.event
          = w.board.handler.process x.peer x.event from rfl, hnext] at hthere
        rw [show w.board.handler.session? x.duty.task.peer = none from hs] at hthere
        cases hthere
      | some s =>
        have hold : w.board.enrolls x.duty = false := by
          rw [Switchboard.enrolls, show x.duty.task.event.creates = false from hcreates,
            Bool.and_false]
        rw [Switchboard.present, hs, Switchboard.issuer, hold]
        rfl
  · cases hk

theorem inPlace_work (hfirst : ∀ y ∈ before, channel y.peer ≠ channel x.peer) (q : PeerAddress) :
    InPlace w.role ((w.work x (before ++ after)).fits q) ((w.work x (before ++ after)).mail q)
      ((w.work x (before ++ after)).board.closing q)
      (w.board.dispatcher.connections.get? q) (w.board.dispatcher.connecting.get? q) := by
  have hq := h.inPlace q
  have hclosing : w.board.closing q = true →
      (w.work x (before ++ after)).board.closing q = true := by
    intro hc
    rw [Switchboard.closing, Mailroom.work, Switchboard.work, List.any_append]
    exact Bool.or_eq_true_iff.mpr (.inl hc)
  rw [mail_work hx hfirst q] at hq
  by_cases hqp : x.peer = q
  · subst hqp
    rw [List.filter_cons_of_pos (by simp)] at hq
    exact hq.work (h.fits_work _) hclosing
  · rw [List.filter_cons_of_neg (by simpa using hqp)] at hq
    refine hq.mono (fun id hid k hk => List.mem_append_left _ (hid k ?_)) hclosing
    rw [← hk]
    exact (w.board.work_of_ne x.duty _ h.ordered.lives (Ne.symm hqp)).1.symm

theorem work (hfirst : ∀ y ∈ before, channel y.peer ≠ channel x.peer) :
    (w.work x (before ++ after)).Sound := by
  have hduties : w.board.duties = before.map Letter.duty ++ x.duty :: after.map Letter.duty := by
    rw [h.duties, hx, List.map_append, List.map_cons]
  have hothers : ∀ y ∈ before.map Letter.duty,
      channel y.task.peer ≠ channel x.duty.task.peer := by
    intro y hy
    obtain ⟨y', hy', rfl⟩ := List.mem_map.mp hy
    exact hfirst y' hy'
  have hordered := h.ordered.work hduties hothers
  rw [← List.map_append] at hordered
  have hrole : (w.work x (before ++ after)).role = w.role := Handler.role_process ..
  have hsub : ∀ y ∈ before ++ after, y ∈ w.letters := by
    intro y hy
    rw [hx]
    exact List.mem_append.mpr ((List.mem_append.mp hy).imp_right (List.mem_cons_of_mem _))
  obtain ⟨hdistinct, hbelow⟩ := h.numbers_work hx
  refine ⟨hordered, rfl, h.pending, ?_, hdistinct, hbelow, fun hclient => ?_, fun hserver => ?_,
    fun q => hrole ▸ h.inPlace_work hx hfirst q⟩
  · show (if w.board.enrolls x.duty then _ else _ : List (Nat × Nat)) ⊆ _
    split
    · rename_i hnew
      rw [Mailroom.work, Switchboard.issuer, if_pos hnew]
      exact List.append_subset.mpr ⟨List.subset_append_of_subset_left _ h.owned,
        List.subset_append_right _ _⟩
    · exact List.subset_append_of_subset_left _ h.owned
  · have hdials := h.dials (hrole ▸ hclient)
    refine ⟨hdials.crossed, fun y hy => hdials.unreported y (hsub y hy), fun q => ?_⟩
    have hpledge := hdials.pledge q
    rw [mail_work hx hfirst q, List.countP_append, Letter.countP_creates] at hpledge
    exact hpledge.work h.ordered.lives
  · have hlistens := h.listens (hrole ▸ hserver)
    obtain ⟨hacceptors, hcommands⟩ := Handler.acceptors_process h.ordered.lives hlistens.acceptors
      x.peer (hlistens.accepted x (by rw [hx]; simp))
    refine ⟨hlistens.unattempted, fun o ho p => ?_, hacceptors,
      fun y hy => hlistens.accepted y (hsub y hy), hlistens.unregistered⟩
    rcases List.mem_append.mp ho with ho | ho
    · exact hlistens.unasked o ho p
    · obtain ⟨c, hc, rfl⟩ := List.mem_map.mp ho
      rintro rfl
      exact hcommands p hc

end Work

end Steps

end Sound

variable {channel : PeerAddress → Nat} {role : Role} {settings : Settings} {firstId : UInt8}
variable {maxConnection maxPackageSize : Nat}

theorem Reached.sound
    (h : Reached channel (init role settings firstId maxConnection maxPackageSize) w) :
    w.Sound := by
  induction h with
  | refl => exact .init
  | accept _ hfree hrole peer ih => exact ih.accept hfree hrole peer
  | dispatch _ hfree ho ih => exact ih.dispatch hfree ho
  | report _ _ peer id r ih =>
    exact ih.hear (Dispatcher.yields_report ..) fun t ht =>
      (Dispatcher.tasks_report ht).imp_right .inl
  | attempted _ _ peer id result ih =>
    exact ih.hear (Dispatcher.yields_attempted ..) fun t ht =>
      (Dispatcher.tasks_attempted ht).imp_right .inr
  | post _ hx ih => exact ih.post hx
  | reserve _ hrole hr ih => exact ih.reserve hrole hr
  | ask _ hp ih => exact ih.ask hp
  | submit _ ht ih => exact ih.submit ht
  | work _ hx hfirst ih => exact ih.work hx hfirst

/-- **Events stay with their session.**  Whenever a worker handles an event that stems from a
connection or an attempt, that is one which the session of the peer was told of or asked for, and no
other session was or did; or this is a client, and the event was submitted while a close of the peer
still waited for the dispatcher. -/
theorem events_in_place
    (h : Reached channel (init role settings firstId maxConnection maxPackageSize) w)
    {before after : List Letter} {x : Letter} (hx : w.letters = before ++ x :: after)
    (hfirst : ∀ y ∈ before, channel y.peer ≠ channel x.peer) {id k : Nat}
    (hid : x.origin = some id) (hk : w.board.present x.peer = some k) :
    ((k, id) ∈ w.made ∧ ∀ j, (j, id) ∈ w.made → j = k) ∨
      w.role = .client ∧ x.late = true := by
  have hheard := (h.sound.inPlace x.peer).heard
  rw [mail_work hx hfirst, List.filter_cons_of_pos (by simp)] at hheard
  refine (hheard.1 id hid).imp_left fun hfits => ⟨hfits k hk, fun j hj => ?_⟩
  have hdistinct := (List.nodup_append.mp h.sound.distinct).1
  exact congrArg Prod.fst (List.inj_on_of_nodup_map hdistinct hj (hfits k hk) rfl)

/-- A client closes a session while its attempt to connect is under way, and registers the peer
again.  The attempt succeeds before the dispatcher gets to the close.  The next session takes it for
its own and sends its OPEN. -/
theorem events_in_place_late :
    let p := PeerAddress.v4 ⟨10, 0, 0, 1⟩ 4189
    let x : Letter :=
      { duty := { task := ⟨p, .transportUp⟩, connection := none }, origin := some 1, late := true }
    ∃ w : Mailroom, Reached (fun _ => 0) (init .client {} 1 8 65535) w ∧ w.letters = [x] ∧
      w.board.present p = some 1 ∧ w.made = [(0, 1)] ∧
      .send p (OpenObject.propose 30 120 2).message.encode ∈
        (w.board.handler.process p .transportUp).commands ∧
      (((1, 1) ∈ w.made ∧ ∀ j, (j, 1) ∈ w.made → j = 1) ∨ w.role = .client ∧ x.late = true) := by
  intro p x
  let request : Letter :=
    { duty := { task := ⟨p, .connectRequested⟩, connection := none }, origin := none
      late := false }
  let close : Letter :=
    { duty := { task := ⟨p, .closeRequested⟩, connection := none }, origin := none, late := false }
  let start := init .client {} 1 8 65535
  have hreserved : Reached (fun _ => 0) start (start.reserve p _) := .reserve .refl rfl rfl
  have hasked := hreserved.ask (show p ∈ _ from List.mem_singleton.mpr rfl)
  have hcreated :=
    hasked.work (show _ = [] ++ request :: [] by decide +kernel) (List.forall_mem_nil _)
  have hconnecting := hcreated.dispatch rfl
    (show _ = [{ session := 0, command := .connect p }] by decide +kernel)
  have hclosing := hconnecting.submit
    (show (Task.mk p .closeRequested).event.creates = false from rfl)
  have hended :=
    hclosing.work (show _ = [] ++ close :: [] by decide +kernel) (List.forall_mem_nil _)
  have hreserved' : Reached (fun _ => 0) start (Mailroom.reserve _ p _) :=
    .reserve hended (by decide +kernel)
      (show _ = some { sessions := .empty, reserved := [p] } from rfl)
  have hasked' := hreserved'.ask (show p ∈ _ from List.mem_singleton.mpr rfl)
  have hlate := (hasked'.attempted rfl p 1 (.ok ())).work
    (show _ = [] ++ request :: [x] by decide +kernel) (List.forall_mem_nil _)
  exact ⟨_, hlate, by decide +kernel, by decide +kernel, by decide +kernel, by decide +kernel,
    events_in_place hlate (show _ = [] ++ x :: [] by decide +kernel) (List.forall_mem_nil _) rfl
      (show _ = some 1 by decide +kernel)⟩

end Mailroom

end PathSession
