import Mathlib.Data.List.Nodup
import Mathlib.Logic.Function.Basic
import PathSession.Engine.Calls
import PathSession.Network.Dispatcher
import PathSession.Proofs.Engine.Handling

/-!
# Whose connection a command meets

Sessions name the peer in their commands, not a connection, and a command may wait while
connections of the peer come and go.  A session opens the connections it attempts, and is created
for the connection whose acceptance it is told first.  Commands meet only these, save for a
connection that was accepted while an earlier session of the peer was not finished: that one gets
what the earlier session still has to say, its close included.

* `Switchboard`, `Switchboard.Reached`: the dispatcher, the sessions, and what is on its way between
  them;
* `Orderly`, `Settled`: how the waiting commands of a peer decide whose its connection is;
* `Switchboard.commands_owned`: a command acts on a connection of its session, or on one that
  crossed an unfinished session.
-/

namespace PathSession

/-! ### Deeds of the dispatcher -/

namespace Deed

/-- The task that is submitted, if one is. -/
def task? : Deed → Option Task
  | submit peer event => some { peer, event }
  | _ => none

/-- The connection that is put to work, if one is. -/
def registered? : Deed → Option Nat
  | register id _ => some id
  | _ => none

/-- The attempt that is started, if one is. -/
def attempt? : Deed → Option Nat
  | attempt id _ => some id
  | _ => none

/-- The connection or attempt that is acted upon, if one is. -/
def touched? : Deed → Option Nat
  | abandon id | write id _ | stopReading id | drop id => some id
  | _ => none

end Deed

theorem Table.get?_of_erase {κ α : Type} [DecidableEq κ] {t : Table κ α} {k k' : κ} {a : α}
    (h : (t.erase k).get? k' = some a) : t.get? k' = some a := by
  rw [get?_erase] at h
  split at h
  · cases h
  · exact h

namespace Dispatcher

variable {d : Dispatcher}

/-- A peer that connects gets a connection under the next number, or nothing changes. -/
theorem accept_cases (d : Dispatcher) (peer : PeerAddress) :
    (∃ deeds, d.accept peer = (d, deeds) ∧ deeds.filterMap Deed.task? = [] ∧
        deeds.filterMap Deed.registered? = []) ∨
      ∃ deeds, d.accept peer =
          ({ d with connections := d.connections.insert peer d.nextId, nextId := d.nextId + 1 },
            deeds) ∧
        deeds.filterMap Deed.task? = [{ peer, event := .accepted }] ∧
        deeds.filterMap Deed.registered? = [d.nextId] := by
  unfold accept
  split
  · exact .inl ⟨_, rfl, rfl, rfl⟩
  · split
    · exact .inr ⟨_, rfl, rfl, rfl⟩
    · exact .inl ⟨_, rfl, rfl, rfl⟩

/-- A command changes nothing, or starts an attempt under the next number, or it is a close and no
connection or attempt is left. -/
theorem command_cases (d : Dispatcher) (c : Command) :
    (c ≠ .close c.peer ∧ (d.command c).1 = d ∧
        (d.command c).2.filterMap Deed.attempt? = []) ∨
      (c ≠ .close c.peer ∧
        (d.command c).1 =
          { d with connecting := d.connecting.insert c.peer d.nextId, nextId := d.nextId + 1 } ∧
        (d.command c).2.filterMap Deed.attempt? = [d.nextId]) ∨
      c = .close c.peer ∧ (d.command c).1.connections = d.connections.erase c.peer ∧
        (d.command c).1.connecting = d.connecting.erase c.peer ∧
        (d.command c).1.nextId = d.nextId ∧ (d.command c).2.filterMap Deed.attempt? = [] := by
  cases c with
  | connect peer =>
    have hne : Command.connect peer ≠ .close peer := by simp
    simp only [command, connect]
    split
    · exact .inl ⟨hne, rfl, rfl⟩
    · refine .inr (.inl ⟨hne, rfl, ?_⟩)
      cases d.connecting.get? peer <;> rfl
  | send peer data =>
    have hne : Command.send peer data ≠ .close peer := by simp
    simp only [command, send]
    split <;> exact .inl ⟨hne, rfl, rfl⟩
  | close peer =>
    refine .inr (.inr ⟨rfl, rfl, rfl, rfl, ?_⟩)
    simp only [command, close]
    cases d.connecting.get? peer <;> cases d.connections.get? peer <;> rfl

/-- A command acts on the connection and the attempt of its peer and on nothing else. -/
theorem touched_command {c : Command} {id : Nat}
    (h : id ∈ (d.command c).2.filterMap Deed.touched?) :
    d.connections.get? c.peer = some id ∨ d.connecting.get? c.peer = some id := by
  cases c with
  | connect peer =>
    simp only [command, connect] at h
    split at h
    · simp [Deed.touched?] at h
    · have hattempt : d.connecting.get? peer = some id := by
        simpa [Deed.touched?, eq_comm] using h
      exact .inr hattempt
  | send peer data =>
    simp only [command, send] at h
    split at h
    · rename_i hid
      simp only [List.filterMap_cons, Deed.touched?, List.filterMap_nil, List.mem_singleton] at h
      exact .inl (h ▸ hid)
    · simp [Deed.touched?] at h
  | close peer =>
    simp only [command, close] at h
    show d.connections.get? peer = some id ∨ d.connecting.get? peer = some id
    cases hconnection : d.connections.get? peer <;>
      cases hattempt : d.connecting.get? peer <;>
        simp [hconnection, hattempt, Deed.touched?] at h ⊢ <;> omega

/-- What a report or the end of an attempt does: connections and attempts end, attempts become
connections, and no session is created.  If it has more than one task to submit, none of them ends
or begins. -/
structure Yields (d : Dispatcher) (after : Dispatcher × List Deed) : Prop where
  connections : ∀ q id, after.1.connections.get? q = some id →
    d.connections.get? q = some id ∨ d.connecting.get? q = some id
  connecting : ∀ q id, after.1.connecting.get? q = some id → d.connecting.get? q = some id
  nextId : after.1.nextId = d.nextId
  tasks : ∀ t ∈ after.2.filterMap Deed.task?, t.event.creates = false
  kept : (after.2.filterMap Deed.task?).drop 1 ≠ [] →
    after.1.connections = d.connections ∧ after.1.connecting = d.connecting

theorem yields_keep {deeds : List Deed}
    (h : ∀ t ∈ deeds.filterMap Deed.task?, t.event.creates = false) (d' : Dispatcher)
    (hconnections : d'.connections = d.connections) (hconnecting : d'.connecting = d.connecting)
    (hnext : d'.nextId = d.nextId) : d.Yields (d', deeds) :=
  ⟨fun _ _ hq => .inl (hconnections ▸ hq), fun _ _ hq => hconnecting ▸ hq, hnext, h,
    fun _ => ⟨hconnections, hconnecting⟩⟩

theorem yields_report (d : Dispatcher) (peer : PeerAddress) (id : Nat) (r : Report) :
    d.Yields (d.report peer id r) := by
  unfold report
  split
  · exact yields_keep (by simp [Deed.task?]) d rfl rfl rfl
  · cases r with
    | data data =>
      show d.Yields (if d.halted.contains id then (d, []) else d.receive peer id data)
      split
      · exact yields_keep (by simp [Deed.task?]) d rfl rfl rfl
      · unfold receive
        dsimp only
        split
        · refine yields_keep (fun t ht => ?_) _ rfl rfl rfl
          obtain ⟨deed, hdeed, htask⟩ := List.mem_filterMap.mp ht
          rcases List.mem_append.mp hdeed with hdeed | hdeed
          · obtain ⟨entry, -, rfl⟩ := List.mem_map.mp hdeed
            cases htask
          · obtain ⟨m, -, rfl⟩ := List.mem_map.mp hdeed
            cases htask
            rfl
        · exact yields_keep (by simp [Deed.task?, SessionEvent.creates]) _ rfl rfl rfl
    | lost loss =>
      exact ⟨fun q i hq => .inl (Table.get?_of_erase hq), fun q i hq => hq, rfl,
        by simp [Deed.task?, SessionEvent.creates], fun hmore => absurd rfl hmore⟩

theorem yields_attempted (d : Dispatcher) (peer : PeerAddress) (id : Nat)
    (result : Except IoFault Unit) : d.Yields (d.attempted peer id result) := by
  unfold attempted
  split
  · exact yields_keep (by simp [Deed.task?]) d rfl rfl rfl
  · rename_i hcurrent
    simp only [ne_eq, not_not] at hcurrent
    cases result with
    | error fault =>
      exact ⟨fun q i hq => .inl hq, fun q i hq => Table.get?_of_erase hq, rfl,
        by simp [Deed.task?, SessionEvent.creates], fun hmore => absurd rfl hmore⟩
    | ok _ =>
      dsimp only
      split
      · refine ⟨fun q i hq => ?_, fun q i hq => Table.get?_of_erase hq, rfl,
          by simp [Deed.task?, SessionEvent.creates], fun hmore => absurd rfl hmore⟩
        simp only [Table.get?_insert] at hq
        split at hq
        · rename_i hqp
          rw [hqp, ← hq]
          exact .inr hcurrent
        · exact .inl hq
      · exact ⟨fun q i hq => .inl hq, fun q i hq => Table.get?_of_erase hq, rfl,
          by simp [Deed.task?, SessionEvent.creates], fun hmore => absurd rfl hmore⟩

end Dispatcher

/-! ### The dispatcher and the sessions -/

/-- A task on its way to its worker, and the number of the accepted connection that it reports, if
it reports one. -/
structure Duty where
  task : Task
  connection : Option Nat
  deriving DecidableEq

/-- A command on its way to the dispatcher, and the number of the session that issued it. -/
structure Issued where
  session : Nat
  command : Command
  deriving DecidableEq

/-- The dispatcher and the sessions of a node, with all that is on its way between them.  Sessions
are numbered in the order in which they are created. -/
structure Switchboard where
  dispatcher : Dispatcher
  handler : Handler
  /-- issued and not handled yet, oldest first -/
  commands : List Issued
  /-- submitted to the workers and not handled yet, oldest first -/
  duties : List Duty
  /-- what the dispatcher submits next, one task at a time, before it gets to anything else -/
  outbox : List Duty
  /-- the number of the latest session of each peer -/
  serial : PeerAddress → Nat
  nextSerial : Nat
  /-- the sessions, each with a connection it was created for or an attempt it asked for -/
  owns : List (Nat × Nat)
  /-- the connections that were accepted while a session of the peer was not finished -/
  crossed : List Nat

namespace Switchboard

/-- Nothing has happened. -/
def init (role : Role) (settings : Settings) (firstId : UInt8)
    (maxConnection maxPackageSize : Nat) : Switchboard :=
  { dispatcher := .init maxConnection maxPackageSize, handler := .init role settings firstId
    commands := [], duties := [], outbox := [], serial := fun _ => 0, nextSerial := 0, owns := []
    crossed := [] }

/-- The tasks among some deeds, all reporting one connection or none. -/
def dutiesOf (deeds : List Deed) (connection : Option Nat) : List Duty :=
  (deeds.filterMap Deed.task?).map fun task => { task, connection }

/-- Whether a session of a peer is there, or has commands that wait, or is yet to be created. -/
def unfinished (w : Switchboard) (peer : PeerAddress) : Bool :=
  (w.handler.session? peer).isSome || w.commands.any (·.command.peer = peer) ||
    w.duties.any fun x => x.task.peer = peer && x.task.event.creates

/-- A peer connects. -/
def accept (w : Switchboard) (peer : PeerAddress) : Switchboard :=
  let after := w.dispatcher.accept peer
  let registered := after.2.filterMap Deed.registered?
  { w with
    dispatcher := after.1
    duties := w.duties ++ dutiesOf after.2 registered.head?
    crossed := if w.unfinished peer then w.crossed ++ registered else w.crossed }

/-- The dispatcher gets to a command. -/
def dispatch (w : Switchboard) (o : Issued) (more : List Issued) : Switchboard :=
  let after := w.dispatcher.command o.command
  { w with
    dispatcher := after.1
    commands := more
    owns := w.owns ++ (after.2.filterMap Deed.attempt?).map (o.session, ·) }

/-- The dispatcher gets to a report of a connection or to the end of an attempt, and submits the
first of its tasks. -/
def hear (w : Switchboard) (after : Dispatcher × List Deed) : Switchboard :=
  let tasks := dutiesOf after.2 none
  { w with dispatcher := after.1, duties := w.duties ++ tasks.take 1, outbox := tasks.drop 1 }

/-- The dispatcher submits the next of its tasks. -/
def post (w : Switchboard) (x : Duty) (more : List Duty) : Switchboard :=
  { w with duties := w.duties ++ [x], outbox := more }

/-- Whether a task creates a session. -/
def enrolls (w : Switchboard) (x : Duty) : Bool :=
  (w.handler.session? x.task.peer).isNone && x.task.event.creates

/-- The number of the session that handles a task. -/
def issuer (w : Switchboard) (x : Duty) : Nat :=
  if w.enrolls x then w.nextSerial else w.serial x.task.peer

/-- A worker handles a task.  A session that is created gets the next number, and the connection
that the task reports. -/
def work (w : Switchboard) (x : Duty) (duties : List Duty) : Switchboard :=
  let handled := w.handler.process x.task.peer x.task.event
  { w with
    handler := handled.next
    commands := w.commands ++ handled.commands.map (Issued.mk (w.issuer x))
    duties
    serial := Function.update w.serial x.task.peer (w.issuer x)
    nextSerial := if w.enrolls x then w.nextSerial + 1 else w.nextSerial
    owns := if w.enrolls x then w.owns ++ x.connection.toList.map (w.nextSerial, ·) else w.owns }

/-- What can come about.  The dispatcher takes what comes to it in any order, but commands as they
were issued, and submits the tasks of one read one by one before it takes anything else.  Nobody else
looks at its tables, so they may as well change when its first task gets into the queue of a worker,
however long that queue was full: this is one step.  Tasks that report no accepted connection are
submitted from outside as well; and a worker takes the oldest task of its own, while those of other
workers may wait. -/
inductive Reached (channel : PeerAddress → Nat) (start : Switchboard) : Switchboard → Prop
  | refl : Reached channel start start
  | accept {w : Switchboard} (h : Reached channel start w) (hfree : w.outbox = [])
      (peer : PeerAddress) : Reached channel start (w.accept peer)
  | dispatch {w : Switchboard} (h : Reached channel start w) (hfree : w.outbox = []) {o : Issued}
      {more : List Issued} (ho : w.commands = o :: more) :
      Reached channel start (w.dispatch o more)
  | report {w : Switchboard} (h : Reached channel start w) (hfree : w.outbox = [])
      (peer : PeerAddress) (id : Nat) (r : Report) :
      Reached channel start (w.hear (w.dispatcher.report peer id r))
  | attempted {w : Switchboard} (h : Reached channel start w) (hfree : w.outbox = [])
      (peer : PeerAddress) (id : Nat) (result : Except IoFault Unit) :
      Reached channel start (w.hear (w.dispatcher.attempted peer id result))
  | post {w : Switchboard} (h : Reached channel start w) {x : Duty} {more : List Duty}
      (hx : w.outbox = x :: more) : Reached channel start (w.post x more)
  | submit {w : Switchboard} (h : Reached channel start w) (task : Task)
      (ht : task.event ≠ .accepted) :
      Reached channel start { w with duties := w.duties ++ [{ task, connection := none }] }
  | work {w : Switchboard} (h : Reached channel start w) {before after : List Duty} {x : Duty}
      (hx : w.duties = before ++ x :: after)
      (hfirst : ∀ y ∈ before, channel y.task.peer ≠ channel x.task.peer) :
      Reached channel start (w.work x (before ++ after))

end Switchboard

/-! ### The commands of one peer -/

/-- The session whose word comes next: that of the first waiting command, or the present one. -/
def Governs (present : Option Nat) (k : Nat) : List Issued → Prop
  | [] => present = some k
  | o :: _ => o.session = k

/-- Between two sessions of a peer comes a close of the earlier. -/
def Orderly (present : Option Nat) : List Issued → Prop
  | [] => True
  | o :: more => (o.command ≠ .close o.command.peer → Governs present o.session more) ∧
      Orderly present more

/-- What a task adds to the commands of a peer: nothing, or commands of one session, which stays or
closes last. -/
inductive Adds (peer : PeerAddress) (present present' : Option Nat) (new : List Issued) : Prop
  | nothing (hnew : new = []) (hpresent : present' = present)
  | commands (k : Nat) (hpresent : present = some k ∨ present = none)
      (hnew : ∀ o ∈ new, o.session = k)
      (hends : present' = some k ∨
        present = some k ∧ ∃ before, new = before ++ [{ session := k, command := .close peer }])

section Adds

variable {peer : PeerAddress} {present present' : Option Nat} {new : List Issued}

theorem governs_new {k : Nat} (hnew : ∀ o ∈ new, o.session = k)
    (hends : new = [] → present' = some k) : Governs present' k new := by
  cases new with
  | nil => exact hends rfl
  | cons o more => exact hnew o List.mem_cons_self

theorem Adds.governs (h : Adds peer present present' new) {j : Nat} {l : List Issued}
    (hj : Governs present j l) : Governs present' j (l ++ new) := by
  cases l with
  | cons o more => exact hj
  | nil =>
    obtain rfl : present = some j := hj
    rcases h with ⟨rfl, hpresent⟩ | ⟨k, hpresent, hnew, hends⟩
    · exact hpresent
    · obtain rfl : j = k := by simpa using hpresent
      refine governs_new hnew fun hnil => ?_
      rcases hends with hends | ⟨-, before, hclose⟩
      · exact hends
      · rw [hclose] at hnil
        exact absurd hnil (by simp)

theorem orderly_new {k : Nat} (hnew : ∀ o ∈ new, o.session = k)
    (hends : present' = some k ∨
      ∃ before, new = before ++ [{ session := k, command := .close peer }]) :
    Orderly present' new := by
  induction new with
  | nil => trivial
  | cons o more ih =>
    obtain ⟨ho, hmore⟩ := List.forall_mem_cons.mp hnew
    rcases hends with hends | ⟨before, hclose⟩
    · exact ⟨fun _ => governs_new (ho ▸ hmore) fun _ => ho ▸ hends, ih hmore (.inl hends)⟩
    · cases before with
      | nil =>
        obtain ⟨rfl, rfl⟩ := List.cons.inj hclose
        exact ⟨fun hne => absurd rfl hne, trivial⟩
      | cons b before =>
        obtain ⟨rfl, rfl⟩ := List.cons.inj hclose
        exact ⟨fun _ => governs_new (ho ▸ hmore) fun hnil => absurd hnil (by simp),
          ih hmore (.inr ⟨before, rfl⟩)⟩

theorem Adds.orderly (h : Adds peer present present' new) {l : List Issued}
    (hl : Orderly present l) : Orderly present' (l ++ new) := by
  induction l with
  | nil =>
    rcases h with ⟨rfl, -⟩ | ⟨k, -, hnew, hends⟩
    · trivial
    · exact orderly_new hnew (hends.imp_right And.right)
  | cons o more ih => exact ⟨fun hne => h.governs (hl.1 hne), ih hl.2⟩

end Adds

/-! ### The connection of one peer -/

/-- One peer: the number of its present session, its waiting commands, the tasks that can create
its next session, its connection and its attempt.  The attempt is that of the session whose word
comes next.  So is the connection, unless it crossed a session, or the task that reports it is the
next to create one and nothing of an earlier session is left. -/
structure Settled (owns : List (Nat × Nat)) (crossed : List Nat) (present : Option Nat)
    (waiting : List Issued) (heralds : List Duty) (connection attempt : Option Nat) : Prop where
  orderly : Orderly present waiting
  attempted : ∀ id, attempt = some id → ∃ k, (k, id) ∈ owns ∧ Governs present k waiting
  connected : ∀ id, connection = some id → id ∈ crossed ∨
    (∃ k, (k, id) ∈ owns ∧ Governs present k waiting) ∨
    waiting = [] ∧ present = none ∧ ∃ x, heralds.head? = some x ∧ x.connection = some id

namespace Settled

variable {owns owns' : List (Nat × Nat)} {crossed crossed' : List Nat}
variable {present present' : Option Nat}
variable {waiting : List Issued} {heralds : List Duty} {connection attempt : Option Nat}

theorem init : Settled owns crossed none [] [] none none := ⟨trivial, nofun, nofun⟩

section Steps

variable (h : Settled owns crossed present waiting heralds connection attempt)
include h

theorem mono (ho : owns ⊆ owns') (hc : crossed ⊆ crossed') :
    Settled owns' crossed' present waiting heralds connection attempt := by
  refine ⟨h.orderly, fun id hid => ?_, fun id hid => ?_⟩
  · obtain ⟨k, hk, hgoverns⟩ := h.attempted id hid
    exact ⟨k, ho hk, hgoverns⟩
  · exact (h.connected id hid).imp (hc ·) (.imp_left fun ⟨k, hk, hgoverns⟩ => ⟨k, ho hk, hgoverns⟩)

/-- Tasks that are submitted wait behind the one that reports the connection. -/
theorem herald (more : List Duty) :
    Settled owns crossed present waiting (heralds ++ more) connection attempt := by
  refine ⟨h.orderly, h.attempted, fun id hid => (h.connected id hid).imp_right (.imp_right ?_)⟩
  rintro ⟨hwaiting, hpresent, x, hx, hconnection⟩
  refine ⟨hwaiting, hpresent, x, ?_, hconnection⟩
  rw [List.head?_append, hx]
  rfl

/-- Connections and attempts end, and attempts become connections. -/
theorem yield {connection' attempt' : Option Nat}
    (hconnection : ∀ id, connection' = some id → connection = some id ∨ attempt = some id)
    (hattempt : ∀ id, attempt' = some id → attempt = some id) :
    Settled owns crossed present waiting heralds connection' attempt' := by
  refine ⟨h.orderly, fun id hid => h.attempted id (hattempt id hid), fun id hid => ?_⟩
  rcases hconnection id hid with hid | hid
  · exact h.connected id hid
  · exact .inr (.inl (h.attempted id hid))

/-- A connection is accepted. -/
theorem accepts {id : Nat} (hnew : id ∈ crossed ∨ waiting = [] ∧ present = none ∧
      ∃ x, heralds.head? = some x ∧ x.connection = some id) :
    Settled owns crossed present waiting heralds (some id) attempt := by
  refine ⟨h.orderly, h.attempted, fun i hi => ?_⟩
  obtain rfl := Option.some.inj hi
  exact hnew.imp_right .inr

/-- A task is handled. -/
theorem work {peer : PeerAddress} {new : List Issued} {heralds' : List Duty}
    (ha : Adds peer present present' new)
    (hidle : present = none → present' = none → new = [] ∧ heralds' = heralds)
    (hnew : ∀ k, present = none → present' = some k → (∀ o ∈ new, o.session = k) ∧
      ∃ x, heralds = x :: heralds' ∧ ∀ id, x.connection = some id → (k, id) ∈ owns) :
    Settled owns crossed present' (waiting ++ new) heralds' connection attempt := by
  refine ⟨ha.orderly h.orderly, fun id hid => ?_, fun id hid => ?_⟩
  · obtain ⟨k, hk, hgoverns⟩ := h.attempted id hid
    exact ⟨k, hk, ha.governs hgoverns⟩
  · rcases h.connected id hid with hcrossed | ⟨k, hk, hgoverns⟩ | ⟨rfl, hpresent, x, hx, hid⟩
    · exact .inl hcrossed
    · exact .inr (.inl ⟨k, hk, ha.governs hgoverns⟩)
    · cases hpresent' : present' with
      | none =>
        obtain ⟨rfl, rfl⟩ := hidle hpresent hpresent'
        exact .inr (.inr ⟨rfl, rfl, x, hx, hid⟩)
      | some k =>
        obtain ⟨hsession, y, hy, howns⟩ := hnew k hpresent hpresent'
        obtain rfl : y = x := by
          rw [hy] at hx
          exact Option.some.inj hx
        exact .inr (.inl ⟨k, howns id hid, governs_new hsession fun _ => rfl⟩)

end Steps

/-- A command meets an attempt of its session, and a connection of its session or one that
crossed. -/
theorem met {o : Issued}
    (h : Settled owns crossed present (o :: waiting) heralds connection attempt) :
    (∀ id, attempt = some id → (o.session, id) ∈ owns) ∧
      ∀ id, connection = some id → (o.session, id) ∈ owns ∨ id ∈ crossed := by
  refine ⟨fun id hid => ?_, fun id hid => ?_⟩
  · obtain ⟨k, hk, rfl⟩ := h.attempted id hid
    exact hk
  · rcases h.connected id hid with hcrossed | ⟨k, hk, rfl⟩ | ⟨hwaiting, -⟩
    · exact .inr hcrossed
    · exact .inl hk
    · cases hwaiting

/-- After a command other than a close, the next word is that of the same session. -/
theorem next {o : Issued}
    (h : Settled owns crossed present (o :: waiting) heralds connection attempt)
    (ho : o.command ≠ .close o.command.peer) :
    Settled owns crossed present waiting heralds connection attempt := by
  refine ⟨h.orderly.2, fun id hid => ⟨o.session, h.met.1 id hid, h.orderly.1 ho⟩, fun id hid => ?_⟩
  rcases h.met.2 id hid with howns | hcrossed
  · exact .inr (.inl ⟨o.session, howns, h.orderly.1 ho⟩)
  · exact .inl hcrossed

/-- A session attempts to open a connection. -/
theorem opens {k id : Nat} (h : Settled owns crossed present waiting heralds connection attempt)
    (hk : (k, id) ∈ owns) (hgoverns : Governs present k waiting) :
    Settled owns crossed present waiting heralds connection (some id) := by
  refine ⟨h.orderly, fun i hi => ?_, h.connected⟩
  obtain rfl := Option.some.inj hi
  exact ⟨k, hk, hgoverns⟩

/-- A session closes. -/
theorem closes {o : Issued}
    (h : Settled owns crossed present (o :: waiting) heralds connection attempt) :
    Settled owns crossed present waiting heralds none none := ⟨h.orderly.2, nofun, nofun⟩

end Settled

/-! ### The invariant -/

namespace Switchboard

/-- The number of the present session of a peer, if it has one. -/
def present (w : Switchboard) (peer : PeerAddress) : Option Nat :=
  if (w.handler.session? peer).isSome then some (w.serial peer) else none

/-- The commands of a peer that wait. -/
def waiting (w : Switchboard) (peer : PeerAddress) : List Issued :=
  w.commands.filter (·.command.peer = peer)

/-- The tasks that can create the next session of a peer. -/
def heralds (w : Switchboard) (peer : PeerAddress) : List Duty :=
  w.duties.filter fun x => x.task.peer = peer && x.task.event.creates

/-- The connections and attempts that a session has, or will have when a task is handled. -/
def numbers (w : Switchboard) : List Nat :=
  w.owns.map (·.2) ++ w.duties.filterMap Duty.connection

/-- Every peer is settled, and no two sessions share a connection.  What is yet to be submitted
creates no session. -/
structure Ordered (w : Switchboard) : Prop where
  lives : w.handler.Lives
  pending : ∀ x ∈ w.outbox, x.connection = none ∧ x.task.event.creates = false
  distinct : w.numbers.Nodup
  below : ∀ id ∈ w.numbers, id < w.dispatcher.nextId
  settled : ∀ peer, Settled w.owns w.crossed (w.present peer) (w.waiting peer) (w.heralds peer)
    (w.dispatcher.connections.get? peer) (w.dispatcher.connecting.get? peer)

variable {w : Switchboard}

/-- Numbers stay distinct when the next one is handed out. -/
theorem distinct_next {numbers numbers' : List Nat} {next : Nat} (hd : numbers.Nodup)
    (hb : ∀ id ∈ numbers, id < next) (hp : numbers'.Perm (numbers ++ [next])) :
    numbers'.Nodup ∧ ∀ id ∈ numbers', id < next + 1 := by
  refine ⟨hp.nodup_iff.mpr (List.nodup_append.mpr ⟨hd, List.nodup_singleton _, ?_⟩), ?_⟩
  · intro id hid id' hid'
    rw [List.mem_singleton.mp hid']
    exact Nat.ne_of_lt (hb id hid)
  · intro id hid
    rcases List.mem_append.mp (hp.mem_iff.mp hid) with hid | hid
    · exact Nat.lt_succ_of_lt (hb id hid)
    · rw [List.mem_singleton.mp hid]
      exact Nat.lt_succ_self _

theorem not_unfinished {peer : PeerAddress} (h : w.unfinished peer = false) :
    w.waiting peer = [] ∧ w.present peer = none ∧ w.heralds peer = [] := by
  simp only [unfinished, Bool.or_eq_false_iff, List.any_eq_false] at h
  obtain ⟨⟨hsession, hcommands⟩, hduties⟩ := h
  refine ⟨List.filter_eq_nil_iff.mpr hcommands, ?_, List.filter_eq_nil_iff.mpr hduties⟩
  rw [present, hsession]
  rfl

/-- A task that is handled is the oldest of its peer. -/
theorem heralds_of_first {channel : PeerAddress → Nat} {before after : List Duty} {x : Duty}
    (hx : w.duties = before ++ x :: after)
    (hfirst : ∀ y ∈ before, channel y.task.peer ≠ channel x.task.peer) :
    w.heralds x.task.peer = (if x.task.event.creates then [x] else []) ++
      (before ++ after).filter fun y => y.task.peer = x.task.peer && y.task.event.creates := by
  have hbefore :
      before.filter (fun y => y.task.peer = x.task.peer && y.task.event.creates) = [] := by
    refine List.filter_eq_nil_iff.mpr fun y hy hpeer => hfirst y hy ?_
    rw [Bool.and_eq_true, decide_eq_true_eq] at hpeer
    rw [hpeer.1]
  rw [heralds, hx, List.filter_append, List.filter_append, hbefore, List.filter_cons]
  cases x.task.event.creates <;> simp

theorem heralds_of_ne {before after : List Duty} {x : Duty} {q : PeerAddress}
    (hx : w.duties = before ++ x :: after) (hq : q ≠ x.task.peer) :
    w.heralds q = (before ++ after).filter fun y => y.task.peer = q && y.task.event.creates := by
  rw [heralds, hx, List.filter_append, List.filter_append,
    List.filter_cons_of_neg (by simp [Ne.symm hq])]

/-! ### A task is handled -/

section Work

variable (x : Duty) (duties : List Duty)

theorem subset_owns_work : w.owns ⊆ (w.work x duties).owns := by
  show w.owns ⊆ if w.enrolls x then _ else _
  split
  · exact List.subset_append_left _ _
  · exact List.Subset.refl _

/-- The connection that a task reports goes to the session it creates, or is dropped. -/
theorem numbers_work {before after : List Duty} (hx : w.duties = before ++ x :: after)
    (hd : w.numbers.Nodup) (hb : ∀ id ∈ w.numbers, id < w.dispatcher.nextId) :
    (w.work x (before ++ after)).numbers.Nodup ∧
      ∀ id ∈ (w.work x (before ++ after)).numbers, id < w.dispatcher.nextId := by
  have hperm : w.numbers.Perm (w.owns.map (·.2) ++
      (x.connection.toList ++ (before ++ after).filterMap Duty.connection)) := by
    rw [numbers, hx]
    refine List.Perm.append_left _ ?_
    simp only [List.filterMap_append, List.filterMap_cons]
    cases x.connection with
    | none => exact List.Perm.refl _
    | some id => exact List.perm_middle
  have hsub : (w.work x (before ++ after)).numbers.Sublist (w.owns.map (·.2) ++
      (x.connection.toList ++ (before ++ after).filterMap Duty.connection)) := by
    show ((if w.enrolls x then _ else _ : List (Nat × Nat)).map (·.2) ++
      (before ++ after).filterMap Duty.connection).Sublist _
    split
    · rw [List.map_append, List.map_map, List.append_assoc,
        show (·.2) ∘ (w.nextSerial, ·) = (id : Nat → Nat) from rfl, List.map_id]
    · exact (List.sublist_append_right _ _).append_left _
  exact ⟨(hperm.nodup_iff.mp hd).sublist hsub,
    fun id hid => hb id (hperm.mem_iff.mpr (hsub.subset hid))⟩

/-- A task of one peer leaves the present session and the commands of another alone. -/
theorem work_of_ne (hl : w.handler.Lives) {q : PeerAddress} (hq : q ≠ x.task.peer) :
    (w.work x duties).present q = w.present q ∧ (w.work x duties).waiting q = w.waiting q := by
  constructor
  · simp only [present, Switchboard.work, Handler.session?_process_of_ne hl hq,
      Function.update_of_ne hq]
  · rw [waiting, Switchboard.work, List.filter_append, waiting]
    refine List.append_right_eq_self.mpr (List.filter_eq_nil_iff.mpr fun o ho => ?_)
    obtain ⟨c, hc, rfl⟩ := List.mem_map.mp ho
    have hpeer := (Handler.process_commands hl x.task.peer x.task.event).1 c hc
    simpa [hpeer] using Ne.symm hq

theorem present_work : (w.work x duties).present x.task.peer =
    if ((w.handler.process x.task.peer x.task.event).next.session? x.task.peer).isSome then
      some (w.issuer x)
    else none := by
  simp only [present, Switchboard.work, Function.update_self]

/-- The commands of a task are those of one session. -/
theorem waiting_work (hl : w.handler.Lives) : (w.work x duties).waiting x.task.peer =
    w.waiting x.task.peer ++
      (w.handler.process x.task.peer x.task.event).commands.map (Issued.mk (w.issuer x)) := by
  rw [waiting, Switchboard.work, List.filter_append, waiting]
  refine congrArg _ (List.filter_eq_self.mpr fun o ho => ?_)
  obtain ⟨c, hc, rfl⟩ := List.mem_map.mp ho
  exact decide_eq_true ((Handler.process_commands hl x.task.peer x.task.event).1 c hc)

/-- What a task does to the present session of its peer and to its commands. -/
theorem work_self (hl : w.handler.Lives) : ∃ new,
    (w.work x duties).waiting x.task.peer = w.waiting x.task.peer ++ new ∧
      Adds x.task.peer (w.present x.task.peer) ((w.work x duties).present x.task.peer) new ∧
      (w.present x.task.peer = none → (w.work x duties).present x.task.peer = none →
        new = [] ∧ x.task.event.creates = false) ∧
      ∀ k, w.present x.task.peer = none → (w.work x duties).present x.task.peer = some k →
        (∀ o ∈ new, o.session = k) ∧ x.task.event.creates = true ∧
          ∀ id, x.connection = some id → (k, id) ∈ (w.work x duties).owns := by
  have hends := (Handler.process_commands hl x.task.peer x.task.event).2
  have hpresent' := w.present_work x duties
  have hwaiting := waiting_work x duties hl
  set handled := w.handler.process x.task.peer x.task.event with hhandled
  have hall : ∀ o ∈ handled.commands.map (Issued.mk (w.issuer x)), o.session = w.issuer x := by
    intro o ho
    obtain ⟨c, -, rfl⟩ := List.mem_map.mp ho
    rfl
  refine ⟨_, hwaiting, ?_⟩
  cases hs : w.handler.session? x.task.peer with
  | some s =>
    have hpresent : w.present x.task.peer = some (w.issuer x) := by
      simp [present, issuer, enrolls, hs]
    refine ⟨.commands _ (.inl hpresent) hall ?_, by simp [hpresent], by simp [hpresent]⟩
    rcases hends with ⟨-, hstays⟩ | ⟨⟨before, hclose, -⟩, -⟩
    · have hsome : handled.next.session? x.task.peer ≠ none := by simp [hstays, hs]
      exact .inl (by rw [hpresent', if_pos (Option.isSome_iff_ne_none.mpr hsome)])
    · refine .inr ⟨hpresent, before.map (Issued.mk (w.issuer x)), ?_⟩
      rw [hclose, List.map_append]
      rfl
  | none =>
    have hpresent : w.present x.task.peer = none := by simp [present, hs]
    cases he : x.task.event.creates with
    | false =>
      obtain ⟨hnext, heffects⟩ := Handler.process_of_not_creates hl hs he
      have hnil : handled.commands.map (Issued.mk (w.issuer x)) = [] := by
        rw [Handled.commands, hhandled, heffects]
        rfl
      have hnone : (w.work x duties).present x.task.peer = none := by
        rw [hpresent', hhandled, hnext, hs]
        rfl
      exact ⟨.nothing hnil (hnone.trans hpresent.symm), fun _ _ => ⟨hnil, rfl⟩, by simp [hnone]⟩
    | true =>
      have hsome : handled.next.session? x.task.peer ≠ none := by
        rcases hends with ⟨-, hstays⟩ | ⟨-, -, hthere⟩
        · simp [hstays, he]
        · exact absurd hs hthere
      rw [if_pos (Option.isSome_iff_ne_none.mpr hsome)] at hpresent'
      refine ⟨.commands _ (.inr hpresent) hall (.inl hpresent'), by simp [hpresent'], ?_⟩
      intro k _ hk
      obtain rfl : w.issuer x = k := Option.some.inj (hpresent'.symm.trans hk)
      have hnew : w.enrolls x = true := by simp [enrolls, hs, he]
      refine ⟨hall, rfl, fun id hid => ?_⟩
      show _ ∈ if w.enrolls x then _ else _
      rw [if_pos hnew, issuer, if_pos hnew, hid]
      exact List.mem_append_right _ (List.mem_singleton.mpr rfl)

end Work

namespace Ordered

theorem init {role : Role} {settings : Settings} {firstId : UInt8}
    {maxConnection maxPackageSize : Nat} :
    (init role settings firstId maxConnection maxPackageSize).Ordered :=
  ⟨Handler.lives_init role settings firstId, List.forall_mem_nil _, List.nodup_nil, nofun,
    fun _ => .init⟩

section Steps

variable (h : w.Ordered)
include h

theorem accept (peer : PeerAddress) : (w.accept peer).Ordered := by
  rcases w.dispatcher.accept_cases peer with ⟨deeds, hd, htasks, hregistered⟩ |
    ⟨deeds, hd, htasks, hregistered⟩
  · have hw : w.accept peer = w := by
      simp [Switchboard.accept, hd, dutiesOf, htasks, hregistered]
    rw [hw]
    exact h
  · let x : Duty :=
      { task := { peer, event := .accepted }, connection := some w.dispatcher.nextId }
    have hw : w.accept peer = { w with
        dispatcher :=
          { w.dispatcher with
            connections := w.dispatcher.connections.insert peer w.dispatcher.nextId
            nextId := w.dispatcher.nextId + 1 }
        duties := w.duties ++ [x]
        crossed :=
          if w.unfinished peer then w.crossed ++ [w.dispatcher.nextId] else w.crossed } := by
      simp [Switchboard.accept, hd, dutiesOf, htasks, hregistered, x]
    rw [hw]
    have hcrossed : w.crossed ⊆
        if w.unfinished peer then w.crossed ++ [w.dispatcher.nextId] else w.crossed := by
      split
      · exact List.subset_append_left _ _
      · exact List.Subset.refl _
    have hnumbers : (w.owns.map (·.2) ++ (w.duties ++ [x]).filterMap Duty.connection).Perm
        (w.numbers ++ [w.dispatcher.nextId]) := by
      rw [List.filterMap_append, ← List.append_assoc]
      exact List.Perm.refl _
    obtain ⟨hdistinct, hbelow⟩ := distinct_next h.distinct h.below hnumbers
    refine ⟨h.lives, h.pending, hdistinct, hbelow, fun q => ?_⟩
    have hq := ((h.settled q).mono (List.Subset.refl _) hcrossed).herald
      ([x].filter fun x => x.task.peer = q && x.task.event.creates)
    rw [heralds, ← List.filter_append] at hq
    by_cases hqp : q = peer
    · subst hqp
      dsimp only
      rw [Table.get?_insert_self]
      refine hq.accepts ?_
      cases hunfinished : w.unfinished q with
      | true => exact .inl (List.mem_append_right _ (List.mem_singleton.mpr rfl))
      | false =>
        obtain ⟨hwaiting, hpresent, hheralds⟩ := not_unfinished hunfinished
        refine .inr ⟨hwaiting, hpresent, x, ?_, rfl⟩
        rw [List.filter_append]
        rw [heralds] at hheralds
        rw [hheralds]
        simp [x, SessionEvent.creates]
    · dsimp only
      rw [Table.get?_insert_of_ne _ _ hqp]
      exact hq

theorem dispatch {o : Issued} {more : List Issued} (ho : w.commands = o :: more) :
    (w.dispatch o more).Ordered := by
  have hhead := h.settled o.command.peer
  rw [waiting, ho, List.filter_cons_of_pos (by simp)] at hhead
  have hother : ∀ q, q ≠ o.command.peer → Settled w.owns w.crossed (w.present q)
      (more.filter (·.command.peer = q)) (w.heralds q) (w.dispatcher.connections.get? q)
      (w.dispatcher.connecting.get? q) := by
    intro q hq
    have hsettled := h.settled q
    rwa [waiting, ho, List.filter_cons_of_neg (by simpa using Ne.symm hq)] at hsettled
  rcases w.dispatcher.command_cases o.command with ⟨hc, hd, hattempts⟩ | ⟨hc, hd, hattempts⟩ |
    ⟨hc, hconnections, hconnecting, hnext, hattempts⟩
  · have hw : w.dispatch o more = { w with commands := more } := by
      simp [Switchboard.dispatch, hd, hattempts]
    rw [hw]
    refine ⟨h.lives, h.pending, h.distinct, h.below, fun q => ?_⟩
    by_cases hq : q = o.command.peer
    · exact hq ▸ hhead.next hc
    · exact hother q hq
  · have hw : w.dispatch o more = { w with
        dispatcher :=
          { w.dispatcher with
            connecting := w.dispatcher.connecting.insert o.command.peer w.dispatcher.nextId
            nextId := w.dispatcher.nextId + 1 }
        commands := more
        owns := w.owns ++ [(o.session, w.dispatcher.nextId)] } := by
      simp [Switchboard.dispatch, hd, hattempts]
    rw [hw]
    have howns := List.subset_append_left w.owns [(o.session, w.dispatcher.nextId)]
    have hnumbers : ((w.owns ++ [(o.session, w.dispatcher.nextId)]).map (·.2) ++
        w.duties.filterMap Duty.connection).Perm (w.numbers ++ [w.dispatcher.nextId]) := by
      rw [List.map_append, List.append_assoc, numbers, List.append_assoc]
      exact List.Perm.append_left _ List.perm_append_comm
    obtain ⟨hdistinct, hbelow⟩ := distinct_next h.distinct h.below hnumbers
    refine ⟨h.lives, h.pending, hdistinct, hbelow, fun q => ?_⟩
    dsimp only
    by_cases hq : q = o.command.peer
    · subst hq
      rw [Table.get?_insert_self]
      exact ((hhead.next hc).mono howns (List.Subset.refl _)).opens
        (List.mem_append_right _ (List.mem_singleton.mpr rfl)) (hhead.orderly.1 hc)
    · rw [Table.get?_insert_of_ne _ _ hq]
      exact (hother q hq).mono howns (List.Subset.refl _)
  · have howns : (w.dispatch o more).owns = w.owns := by simp [Switchboard.dispatch, hattempts]
    refine ⟨h.lives, h.pending, ?_, ?_, fun q => ?_⟩
    · rw [numbers, howns]
      exact h.distinct
    · rw [numbers, howns]
      exact hnext ▸ h.below
    · rw [howns]
      dsimp only [Switchboard.dispatch]
      rw [hconnections, hconnecting]
      by_cases hq : q = o.command.peer
      · subst hq
        rw [Table.get?_erase_self, Table.get?_erase_self]
        exact hhead.closes
      · rw [Table.get?_erase_of_ne _ hq, Table.get?_erase_of_ne _ hq]
        exact hother q hq

/-- Connections and attempts end, and attempts become connections. -/
theorem yields {after : Dispatcher × List Deed} (ha : w.dispatcher.Yields after) :
    ({ w with dispatcher := after.1 } : Switchboard).Ordered :=
  ⟨h.lives, h.pending, h.distinct, ha.nextId ▸ h.below,
    fun q => (h.settled q).yield (ha.connections q) (ha.connecting q)⟩

/-- Tasks are submitted that report no accepted connection. -/
theorem submits {new outbox : List Duty} (hnew : ∀ x ∈ new, x.connection = none)
    (houtbox : ∀ x ∈ outbox, x.connection = none ∧ x.task.event.creates = false) :
    ({ w with duties := w.duties ++ new, outbox } : Switchboard).Ordered := by
  have hconnections : (w.duties ++ new).filterMap Duty.connection =
      w.duties.filterMap Duty.connection := by
    rw [List.filterMap_append, List.filterMap_eq_nil_iff.mpr hnew, List.append_nil]
  refine ⟨h.lives, houtbox, ?_, ?_, fun q => ?_⟩
  · rw [numbers, hconnections]
    exact h.distinct
  · rw [numbers, hconnections]
    exact h.below
  · rw [heralds, List.filter_append]
    exact (h.settled q).herald _

theorem hear {after : Dispatcher × List Deed} (ha : w.dispatcher.Yields after) :
    (w.hear after).Ordered := by
  have hquiet : ∀ x ∈ dutiesOf after.2 none,
      x.connection = none ∧ x.task.event.creates = false := by
    intro x hx
    obtain ⟨t, ht, rfl⟩ := List.mem_map.mp hx
    exact ⟨rfl, ha.tasks t ht⟩
  exact (h.yields ha).submits (fun x hx => (hquiet x (List.mem_of_mem_take hx)).1)
    fun x hx => hquiet x (List.mem_of_mem_drop hx)

theorem post {x : Duty} {more : List Duty} (hx : w.outbox = x :: more) :
    (w.post x more).Ordered := by
  obtain ⟨hquiet, hmore⟩ := List.forall_mem_cons.mp (hx ▸ h.pending)
  exact h.submits (List.forall_mem_singleton.mpr hquiet.1) hmore

theorem submit (task : Task) :
    ({ w with duties := w.duties ++ [{ task, connection := none }] } : Switchboard).Ordered :=
  h.submits (List.forall_mem_singleton.mpr rfl) h.pending

theorem work {channel : PeerAddress → Nat} {before after : List Duty} {x : Duty}
    (hx : w.duties = before ++ x :: after)
    (hfirst : ∀ y ∈ before, channel y.task.peer ≠ channel x.task.peer) :
    (w.work x (before ++ after)).Ordered := by
  obtain ⟨hdistinct, hbelow⟩ := numbers_work x hx h.distinct h.below
  refine ⟨Handler.lives_process h.lives x.task.peer x.task.event, h.pending, hdistinct, hbelow,
    fun q => ?_⟩
  have hsettled := (h.settled q).mono (subset_owns_work x (before ++ after))
    (List.Subset.refl w.crossed)
  by_cases hq : q = x.task.peer
  · subst hq
    obtain ⟨new, hwaiting, hadds, hidle, hnew⟩ := work_self x (before ++ after) h.lives
    have hheralds := heralds_of_first hx hfirst
    rw [hwaiting]
    refine hsettled.work hadds (fun hpresent hpresent' => ?_) (fun k hpresent hpresent' => ?_)
    · obtain ⟨hnil, he⟩ := hidle hpresent hpresent'
      rw [he] at hheralds
      exact ⟨hnil, hheralds.symm⟩
    · obtain ⟨hsession, he, hk⟩ := hnew k hpresent hpresent'
      rw [he] at hheralds
      exact ⟨hsession, x, hheralds, hk⟩
  · obtain ⟨hpresent, hwaiting⟩ := work_of_ne x (before ++ after) h.lives hq
    rw [heralds_of_ne hx hq] at hsettled
    rw [hpresent, hwaiting]
    exact hsettled

end Steps

end Ordered

variable {channel : PeerAddress → Nat} {role : Role} {settings : Settings} {firstId : UInt8}
variable {maxConnection maxPackageSize : Nat}

theorem Reached.ordered
    (h : Reached channel (init role settings firstId maxConnection maxPackageSize) w) :
    w.Ordered := by
  induction h with
  | refl => exact .init
  | accept _ _ peer ih => exact ih.accept peer
  | dispatch _ _ ho ih => exact ih.dispatch ho
  | report _ _ peer id r ih => exact ih.hear (Dispatcher.yields_report ..)
  | attempted _ _ peer id result ih => exact ih.hear (Dispatcher.yields_attempted ..)
  | post _ hx ih => exact ih.post hx
  | submit _ task _ ih => exact ih.submit task
  | work _ hx hfirst ih => exact ih.work hx hfirst

/-- **Commands act on connections of their session.**  Whatever a command acts on is a connection
that its session was created for or an attempt that it asked for, and then of no other session; or
it is a connection that was accepted while a session of the peer was not finished. -/
theorem commands_owned
    (h : Reached channel (init role settings firstId maxConnection maxPackageSize) w)
    {o : Issued} {more : List Issued} (ho : w.commands = o :: more) :
    ∀ id ∈ (w.dispatcher.command o.command).2.filterMap Deed.touched?,
      ((o.session, id) ∈ w.owns ∧ ∀ k, (k, id) ∈ w.owns → k = o.session) ∨ id ∈ w.crossed := by
  intro id hid
  have hhead := h.ordered.settled o.command.peer
  rw [waiting, ho, List.filter_cons_of_pos (by simp)] at hhead
  have hone : ∀ k k', (k, id) ∈ w.owns → (k', id) ∈ w.owns → k = k' := by
    intro k k' hk hk'
    have hdistinct := (List.nodup_append.mp h.ordered.distinct).1
    exact congrArg Prod.fst (List.inj_on_of_nodup_map hdistinct hk hk' rfl)
  rcases Dispatcher.touched_command hid with hconnection | hattempt
  · rcases hhead.met.2 id hconnection with howns | hcrossed
    · exact .inl ⟨howns, fun k hk => hone k _ hk howns⟩
    · exact .inr hcrossed
  · have howns := hhead.met.1 id hattempt
    exact .inl ⟨howns, fun k hk => hone k _ hk howns⟩

/-- The connection of a session is lost and its peer connects again before the session has heard of
it.  The close of the session then meets the new connection, which the next session is to be created
for. -/
theorem commands_owned_crossed :
    let p := PeerAddress.v4 ⟨10, 0, 0, 1⟩ 4189
    ∃ w : Switchboard, Reached (fun _ => 0) (init .server {} 1 8 65535) w ∧
      w.commands = [{ session := 0, command := .close p }] ∧ w.owns = [(0, 1)] ∧
      w.duties.map (·.connection) = [some 2] ∧
      (w.dispatcher.command (.close p)).2.filterMap Deed.touched? = [2] ∧
      (((0, 2) ∈ w.owns ∧ ∀ k, (k, 2) ∈ w.owns → k = 0) ∨ 2 ∈ w.crossed) := by
  intro p
  let hello : Issued :=
    { session := 0, command := .send p [32, 1, 0, 12, 1, 16, 0, 8, 32, 30, 120, 1] }
  let first : Duty := { task := { peer := p, event := .accepted }, connection := some 1 }
  let loss : Duty := { task := { peer := p, event := .connectionLost }, connection := none }
  let second : Duty := { task := { peer := p, event := .accepted }, connection := some 2 }
  let start := init .server {} 1 8 65535
  have haccepted : Reached (fun _ => 0) start (start.accept p) := .accept .refl rfl p
  let w₁ := (start.accept p).work first []
  have hcreated : Reached (fun _ => 0) start w₁ :=
    haccepted.work (show _ = [] ++ first :: [] by decide +kernel) nofun
  have hgreeted : Reached (fun _ => 0) start (w₁.dispatch hello []) :=
    hcreated.dispatch rfl (by decide +kernel)
  have hlost := (hgreeted.report rfl p 1 (.lost .endOfStream)).accept (by decide +kernel) p
  have hclosing := hlost.work (show _ = [] ++ loss :: [second] by decide +kernel) nofun
  let bye : Issued := { session := 0, command := .close p }
  exact ⟨_, hclosing, by decide +kernel, by decide +kernel, by decide +kernel, by decide +kernel,
    commands_owned hclosing (show _ = [bye] by decide +kernel) 2 (by decide +kernel)⟩

end Switchboard

end PathSession
