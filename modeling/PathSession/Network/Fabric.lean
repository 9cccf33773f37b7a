import PathSession.Duration
import PathSession.Fault
import PathSession.Network.Dispatcher

/-!
# A dispatcher among its remotes

A network in memory: a dispatcher, the remotes it has connections with and the work that is still
to be done on either side.  The dispatcher and the halves of its connections take turns; nobody
works while another does.

* `Socket`: a remote's end of a connection;
* `Shown`: what can be seen from outside;
* `Fabric`, `Fabric.settle`: the network, and all its work until nothing is left to do;
* `Fabric.dial`, `Fabric.transmit`, `Fabric.hangUp`, `Fabric.deafen`: what remotes do;
* `Fabric.advance`, `Fabric.shutdown`: the clock and the shutdown signal.

In its turn the dispatcher takes connections first, then commands, then reports of connections and
the results of attempts, each in the order in which they came.
-/

namespace PathSession

/-- A connection as a remote holds it. -/
structure Socket where
  key : Nat
  /-- the name of the remote -/
  name : String
  link : Link

/-- What can be seen from outside. -/
structure Shown where
  /-- told to sessions -/
  events : List (PeerAddress × SessionEvent)
  /-- read by remotes -/
  received : Table String Octets
  /-- remotes that saw the end of their stream -/
  closed : List String
  journal : Journal

/-- Nothing to see. -/
def Shown.none : Shown := { events := [], received := .empty, closed := [], journal := [] }

/-- Work that waits for its turn. -/
inductive Errand
  /-- the reader of a connection -/
  | read (key : Nat)
  /-- the writer of a connection -/
  | write (key : Nat)
  /-- an attempt to open a connection -/
  | connect (id : Nat) (peer : PeerAddress)
  deriving DecidableEq, Repr

/-- The result of an attempt, with the socket it opened. -/
structure AttemptResult where
  peer : PeerAddress
  id : Nat
  socket : Except IoFault Nat

/-- A network in memory. -/
structure Fabric where
  dispatcher : Dispatcher
  running : Bool
  listening : Bool
  /-- whether any address can be reached at all -/
  reachable : Bool
  /-- what every connection starts to read with -/
  reader : Reader
  /-- addresses that take connections, with the names under which they do -/
  hosts : Table PeerAddress String
  sockets : List Socket
  nextKey : Nat
  /-- connections to the dispatcher that it has not taken yet -/
  waiting : List Nat
  commands : List Command
  reports : List (PeerAddress × Nat × Report)
  results : List AttemptResult
  errands : List Errand
  /-- how many of the next connections can not be taken -/
  acceptFaults : Nat
  now : Millis
  /-- the dispatcher pauses until then -/
  pausedUntil : Option Millis
  stopping : Bool
  /-- someone receives what sessions are told -/
  attended : Bool
  shown : Shown

namespace Fabric

/-- How long the dispatcher pauses after a connection could not be taken. -/
def acceptPause : Millis := 100

/-- A network around a new dispatcher. -/
def init (d : Dispatcher) (reader : Reader) (listening reachable : Bool) : Fabric :=
  { dispatcher := d, running := true, listening, reachable, reader, hosts := .empty
    sockets := [], nextKey := 0, waiting := [], commands := [], reports := [], results := []
    errands := [], acceptFaults := 0, now := 0, pausedUntil := none, stopping := false
    attended := true, shown := .none }

/-! ### What is seen -/

/-- Add to the journal. -/
def note (f : Fabric) (entries : Journal) : Fabric :=
  { f with shown := { f.shown with journal := f.shown.journal ++ entries } }

/-- A remote saw the end of its stream. -/
def noteClosed (f : Fabric) (name : String) : Fabric :=
  { f with shown := { f.shown with closed := f.shown.closed ++ [name] } }

/-- A remote read octets. -/
def noteReceived (f : Fabric) (name : String) (data : Octets) : Fabric :=
  if data.isEmpty then
    f
  else
    let before := (f.shown.received.get? name).getD []
    { f with shown := { f.shown with received := f.shown.received.insert name (before ++ data) } }

/-- Tell a session. -/
def tell (f : Fabric) (peer : PeerAddress) (event : SessionEvent) : Fabric :=
  if f.attended then
    { f with shown := { f.shown with events := f.shown.events ++ [(peer, event)] } }
  else
    f.note [⟨.warn,
      s!"failed to hand event to session worker: {ClosedChannel.events.fault.message}",
      [("peer", peer.text)]⟩]

/-- See what there is to be seen, once. -/
def look (f : Fabric) : Fabric × Shown := ({ f with shown := .none }, f.shown)

/-! ### Sockets -/

/-- Change the connection of a socket. -/
def update (f : Fabric) (key : Nat) (change : Link → Link) : Fabric :=
  { f with sockets := f.sockets.map fun s =>
      if s.key = key then { s with link := change s.link } else s }

/-- The socket of a key. -/
def socket? (f : Fabric) (key : Nat) : Option Socket := f.sockets.find? (·.key = key)

/-- The socket of a numbered connection. -/
def carrying? (f : Fabric) (id : Nat) : Option Socket := f.sockets.find? (·.link.id = id)

/-- The socket a remote opened last. -/
def current? (f : Fabric) (name : String) : Option Socket :=
  f.sockets.reverse.find? (·.name = name)

/-- The names of the remotes with an open socket. -/
def openNames (f : Fabric) : List String :=
  (f.sockets.filter (·.link.isOpen)).map (·.name) |>.eraseDups

/-- Put work at the end of the queue, unless it waits already. -/
def enqueue (f : Fabric) (e : Errand) : Fabric :=
  if f.errands.contains e then f else { f with errands := f.errands ++ [e] }

/-- A remote closes its socket, having read all or not. -/
def hangUpSocket (f : Fabric) (unread : Bool) (s : Socket) : Fabric :=
  (f.update s.key (·.hangUp unread)).enqueue (.read s.key)

/-- A remote has a new socket, in place of the one it had. -/
def addSocket (f : Fabric) (name : String) (link : Link) : Fabric :=
  let f := (f.current? name).elim f (f.hangUpSocket false)
  { f with sockets := f.sockets ++ [{ key := f.nextKey, name, link }], nextKey := f.nextKey + 1 }

/-- Close a socket on the dispatcher's side. -/
def closeSocket (f : Fabric) (s : Socket) : Fabric :=
  let f := f.update s.key Link.drop
  if s.link.remote = .listening then f.noteClosed s.name else f

/-! ### The dispatcher's turn -/

/-- Carry out a deed of the dispatcher, with a socket at hand. -/
def carryOut (hand : Option Nat) (f : Fabric) : Deed → Fabric
  | .register id _ =>
    match hand with
    | some key => (f.update key (·.start id f.reader)).enqueue (.read key)
    | none => f
  | .refuse _ => (hand.bind f.socket?).elim f f.closeSocket
  | .attempt id peer => f.enqueue (.connect id peer)
  | .abandon id =>
    { f with errands := f.errands.filter fun
        | .connect i _ => i ≠ id
        | _ => true }
  | .write id data =>
    match f.carrying? id with
    | none => f
    | some s =>
      let (link, taken) := s.link.send data
      if taken then
        (f.update s.key fun _ => link).enqueue (.write s.key)
      else
        f.note [⟨.debug, "writer gone, message dropped", [("peer", link.peer.text)]⟩]
  | .stopReading id =>
    match f.carrying? id with
    | none => f
    | some s => f.update s.key Link.stopReading
  | .drop id =>
    match f.carrying? id with
    | none => f
    | some s => ((f.update s.key Link.drop).note [s.link.dropEntry]).enqueue (.write s.key)
  | .submit peer event => f.tell peer event
  | .remark entry => f.note [entry]

/-- The dispatcher deals with an occurrence. -/
def occur (f : Fabric) (hand : Option Nat) (o : Occurrence) : Fabric :=
  let (dispatcher, deeds) := f.dispatcher.step o
  deeds.foldl (carryOut hand) { f with dispatcher }

/-- Take the connections that wait, until one can not be taken. -/
def acceptEach : List Nat → Fabric → Fabric
  | [], f => { f with waiting := [] }
  | key :: rest, f =>
    if 0 < f.acceptFaults then
      { f with
        waiting := key :: rest
        acceptFaults := f.acceptFaults - 1
        pausedUntil := some (f.now + acceptPause) }.note
        [⟨.error, s!"accept failed: {IoFault.tooManyOpenFiles.text}", []⟩]
    else
      let f := match f.socket? key with
        | some s => f.occur (some key) (.accepted s.link.peer)
        | none => f
      acceptEach rest f

/-- Handle every command. -/
def handleCommands (f : Fabric) : Fabric :=
  f.commands.foldl (fun f c => f.occur none (.command c)) { f with commands := [] }

/-- Handle every report of a connection. -/
def handleReports (f : Fabric) : Fabric :=
  f.reports.foldl (fun f (peer, id, r) => f.occur none (.report peer id r)) { f with reports := [] }

/-- Handle the results of attempts. -/
def handleResults (f : Fabric) : Fabric :=
  f.results.foldl
    (fun f r =>
      f.occur r.socket.toOption (.attempted r.peer r.id (r.socket.map fun _ => ())))
    { f with results := [] }

/-- The dispatcher stops.  What still waits for it is closed or lost. -/
def halt (f : Fabric) : Fabric :=
  let f := f.dispatcher.stop.foldl (carryOut none) f
  let unclaimed := f.waiting ++ f.results.filterMap (·.socket.toOption)
  let f := (unclaimed.filterMap f.socket?).foldl closeSocket f
  { f with
    running := false, listening := false, waiting := [], commands := [], reports := []
    results := [] }

/-- One turn of the dispatcher. -/
def turn (f : Fabric) : Fabric :=
  if !f.running || f.pausedUntil.isSome then
    f
  else
    let f := acceptEach f.waiting f
    if f.pausedUntil.isSome then
      f
    else
      let f := f.handleCommands.handleReports.handleResults
      if f.stopping then f.halt else f

/-! ### The turns of the others -/

/-- One half of a connection had its turn. -/
def settleLink (f : Fabric) (s : Socket) (t : LinkTurn) : Fabric :=
  let f := (f.update s.key fun _ => t.link).note t.journal
  let f := { f with reports := f.reports ++ t.reports.map fun r => (s.link.peer, s.link.id, r) }
  let f := f.noteReceived s.name t.received
  if t.closed then f.noteClosed s.name else f

/-- An attempt to open a connection is made. -/
def tryConnect (f : Fabric) (id : Nat) (peer : PeerAddress) : Fabric :=
  let ended (f : Fabric) (socket : Except IoFault Nat) : Fabric :=
    { f with results := f.results ++ [{ peer, id, socket }] }
  if !f.reachable then
    ended f (.error .networkUnreachable)
  else
    match f.hosts.get? peer with
    | none => ended f (.error .connectionRefused)
    | some name =>
      let key := f.nextKey
      ended (f.addSocket name (.waiting peer)) (.ok key)

/-- Do one piece of work. -/
def runErrand (f : Fabric) : Errand → Fabric
  | .read key => (f.socket? key).elim f fun s => f.settleLink s s.link.wake
  | .write key => (f.socket? key).elim f fun s => f.settleLink s s.link.flush
  | .connect id peer => f.tryConnect id peer

/-- A turn of the dispatcher, then one of everyone else who has work. -/
def round (f : Fabric) : Fabric :=
  let f := f.turn
  f.errands.foldl runErrand { f with errands := [] }

/-- Go on until nothing is left to do.  In the longest case a connection comes up, its stream ends
and its writer stops, each in a round of its own. -/
def settle (f : Fabric) : Fabric := f.round.round.round.round

/-! ### Remotes -/

/-- Someone connects to the dispatcher. -/
def dial (f : Fabric) (name : String) (peer : PeerAddress) : Except Fault Fabric :=
  if !f.reachable then
    .error (.io IoFault.networkUnreachable.text)
  else if !f.listening then
    .error (.io IoFault.connectionRefused.text)
  else
    let key := f.nextKey
    let f := f.addSocket name (.waiting peer)
    .ok { f with waiting := f.waiting ++ [key] }

/-- An address starts to take connections. -/
def host (f : Fabric) (name : String) (peer : PeerAddress) : Fabric :=
  { f with hosts := f.hosts.insert peer name }

/-- An address takes no more connections. -/
def unhost (f : Fabric) (peer : PeerAddress) : Fabric := { f with hosts := f.hosts.erase peer }

/-- A remote writes. -/
def transmit (f : Fabric) (name : String) (data : Octets) : Fabric :=
  match f.current? name with
  | none => f
  | some s =>
    if data.isEmpty then f else (f.update s.key (·.transmit data)).enqueue (.read s.key)

/-- A remote closes its socket. -/
def hangUp (f : Fabric) (name : String) (unread : Bool) : Fabric :=
  (f.current? name).elim f (f.hangUpSocket unread)

/-- A remote takes no more octets. -/
def deafen (f : Fabric) (name : String) : Fabric :=
  (f.current? name).elim f fun s => f.update s.key Link.deafen

/-- Forget that a remote read octets; tells whether it had. -/
def withhold (f : Fabric) (name : String) : Fabric × Bool :=
  ({ f with shown := { f.shown with received := f.shown.received.erase name } },
    f.shown.received.contains name)

/-! ### Sessions, the clock and the end -/

/-- Sessions give commands. -/
def order (f : Fabric) (commands : List Command) : Fabric :=
  if f.running then
    { f with commands := f.commands ++ commands }
  else
    f.note (commands.map Command.undelivered)

/-- Let the dispatcher go on after each of up to `n` pauses that end by the given time. -/
def resume (horizon : Millis) : Nat → Fabric → Fabric
  | 0, f => f
  | n + 1, f =>
    match f.pausedUntil with
    | none => f
    | some t =>
      if t ≤ horizon then
        resume horizon n ({ f with now := t, pausedUntil := none } : Fabric).settle
      else
        f

/-- Let time pass.  Every pause after the present one uses up a fault. -/
def advance (f : Fabric) (time : Millis) : Fabric :=
  let target := f.now + time
  { resume target (f.acceptFaults + 1) f with now := target }

/-- Give the shutdown signal. -/
def shutdown (f : Fabric) : Fabric := { f with stopping := true }

/-- The receiver of what sessions are told goes away. -/
def detach (f : Fabric) : Fabric := { f with attended := false }

end Fabric

end PathSession
