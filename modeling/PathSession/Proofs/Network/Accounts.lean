import PathSession.Proofs.Network.Tables
import PathSession.Proofs.Wire.Splitting

/-!
# What is told on account of one connection

Both halves of a connection report its loss, octets come in after a framing error, and attempts that
were given up still end.  Whatever the order, what the sessions are told on account of one
connection or attempt is one of two stories: it failed, or it came up, some messages were read, and
it ended.

* `Dispatcher.account`: the tasks that are submitted on account of one connection or attempt;
* `conversation`: the story of a connection, from its own reads alone;
* `Dispatcher.Gone`, `Dispatcher.Fresh`: a number that is told of no more, or not yet;
* `Dispatcher.account_of_open`: what is told of a connection from now on;
* `Dispatcher.account_tells_conversation`: all that is ever told on account of a number.
-/

namespace PathSession

/-! ### The story of a connection -/

namespace Occurrence

/-- The octets that a connection has read, if it reports some. -/
def read? (peer : PeerAddress) (id : Nat) : Occurrence → Option Octets
  | report q i (.data data) => if q = peer ∧ i = id then some data else none
  | _ => none

theorem eq_of_read? {peer : PeerAddress} {id : Nat} {o : Occurrence} {data : Octets}
    (h : o.read? peer id = some data) : o = report peer id (.data data) := by
  match o, h with
  | report q i (.data data'), h =>
    obtain ⟨⟨rfl, rfl⟩, hdata⟩ := Option.ite_none_right_eq_some.mp h
    rw [Option.some.inj hdata]

/-- Whether a connection reports that it is lost. -/
def loses (peer : PeerAddress) (id : Nat) : Occurrence → Bool
  | report q i (.lost _) => q = peer ∧ i = id
  | _ => false

/-- Whether a peer is to be closed. -/
def closes (peer : PeerAddress) : Occurrence → Bool
  | command (.close q) => q = peer
  | _ => false

/-- Whether a connection ends. -/
def ends (peer : PeerAddress) (id : Nat) (o : Occurrence) : Bool :=
  o.loses peer id || o.closes peer

end Occurrence

/-- What is told when a connection ends: that it was lost, unless it was closed. -/
def farewell (peer : PeerAddress) (id : Nat) (os : List Occurrence) : List SessionEvent :=
  if (os.find? (·.ends peer id)).any (·.loses peer id) then [.connectionLost] else []

/-- The reads of a connection before it ends. -/
def readsOf (peer : PeerAddress) (id : Nat) (os : List Occurrence) : List Octets :=
  (os.takeWhile fun o => !o.ends peer id).filterMap (·.read? peer id)

/-- What is told of a connection that is up: the messages that its reads give until one can not be
framed, then that framing failed if it did, and then that it was lost if it was. -/
def conversation (r : Reassembly) (peer : PeerAddress) (id : Nat) (os : List Occurrence) :
    List SessionEvent :=
  let haul := r.feedAll peer (readsOf peer id os)
  haul.messages.map .network ++ (if haul.error.isSome then [.framingFailed] else []) ++
    farewell peer id os

namespace Reassembly

/-- Only the limit and what is pending for the peer matter to its reads. -/
theorem feedAll_congr {r r' : Reassembly} {p : PeerAddress} (hl : r.limit = r'.limit)
    (hp : r.pendingOf p = r'.pendingOf p) (reads : List Octets) :
    r.feedAll p reads = r'.feedAll p reads := by
  induction reads generalizing r r' with
  | nil => simp only [feedAll, hp]
  | cons read more ih =>
    obtain ⟨hresult, hpending⟩ := feed_congr hl hp read
    have hlimit : (r.feed p read).next.limit = (r'.feed p read).next.limit := by
      rw [limit_feed, limit_feed, hl]
    simp only [feedAll, hresult, hpending, ih hlimit hpending, hl, hp]

end Reassembly

section Conversation

variable {r r' : Reassembly} {peer : PeerAddress} {id : Nat} {o : Occurrence}

theorem conversation_congr (hl : r.limit = r'.limit) (hp : r.pendingOf peer = r'.pendingOf peer)
    (os : List Occurrence) : conversation r peer id os = conversation r' peer id os := by
  simp only [conversation, Reassembly.feedAll_congr hl hp]

theorem farewell_cons_of_not_ends (ho : o.ends peer id = false) (os : List Occurrence) :
    farewell peer id (o :: os) = farewell peer id os := by
  rw [farewell, List.find?_cons_of_neg (by simp [ho])]
  rfl

/-- What does not concern a connection is not told of it. -/
theorem conversation_cons_of_other (ho : o.ends peer id = false) (hr : o.read? peer id = none)
    (os : List Occurrence) : conversation r peer id (o :: os) = conversation r peer id os := by
  have hreads : readsOf peer id (o :: os) = readsOf peer id os := by
    rw [readsOf, List.takeWhile_cons_of_pos (by simp [ho]), List.filterMap_cons_none hr]
    rfl
  simp only [conversation, hreads, farewell_cons_of_not_ends ho]

/-- At its end nothing is told of a connection, but that it was lost. -/
theorem conversation_cons_of_ends (ho : o.ends peer id = true) (os : List Occurrence) :
    conversation r peer id (o :: os) =
      if o.loses peer id = true then [.connectionLost] else [] := by
  have hreads : readsOf peer id (o :: os) = [] := by
    rw [readsOf, List.takeWhile_cons_of_neg (by simp [ho])]
    rfl
  rw [conversation, hreads, farewell, List.find?_cons_of_pos ho]
  rfl

theorem readsOf_cons_read {data : Octets} (os : List Occurrence) :
    readsOf peer id (.report peer id (.data data) :: os) = data :: readsOf peer id os := by
  have hread : (Occurrence.report peer id (.data data)).read? peer id = some data :=
    if_pos ⟨rfl, rfl⟩
  rw [readsOf, List.takeWhile_cons_of_pos rfl, List.filterMap_cons_some hread]
  rfl

theorem farewell_cons_read (data : Octets) (os : List Occurrence) :
    farewell peer id (.report peer id (.data data) :: os) = farewell peer id os :=
  farewell_cons_of_not_ends (by rfl) os

/-- A read gives messages and the conversation goes on. -/
theorem conversation_cons_read {data : Octets} {messages : List Message}
    (hfed : (r.feed peer data).result = .ok messages) (os : List Occurrence) :
    conversation r peer id (.report peer id (.data data) :: os) =
      messages.map .network ++ conversation (r.feed peer data).next peer id os := by
  simp only [conversation, readsOf_cons_read, farewell_cons_read, Reassembly.feedAll, hfed,
    Reassembly.Haul.behind, List.map_append, List.append_assoc]

/-- After a read that can not be framed, only the end is told. -/
theorem conversation_cons_halt {data : Octets} {e : FrameError}
    (hfed : (r.feed peer data).result = .error e) (os : List Occurrence) :
    conversation r peer id (.report peer id (.data data) :: os) =
      .framingFailed :: farewell peer id os := by
  simp only [conversation, readsOf_cons_read, farewell_cons_read, Reassembly.feedAll, hfed]
  rfl

end Conversation

theorem Deed.mem_of_registration {deeds : List Deed} {id : Nat} {peer : PeerAddress}
    (h : (id, peer) ∈ deeds.filterMap registration?) : .register id peer ∈ deeds := by
  obtain ⟨deed, hdeed, hreg⟩ := List.mem_filterMap.mp h
  cases deed with
  | register i p =>
    cases hreg
    exact hdeed
  | _ => cases hreg

namespace Dispatcher

variable {d d' : Dispatcher} {deeds : List Deed} {o : Occurrence} {peer q : PeerAddress} {id : Nat}

/-! ### Tasks by number -/

/-- The connection or attempt on whose account an occurrence is dealt with: the one that reports or
has ended, or the one a peer that connects would get. -/
def subject? (d : Dispatcher) : Occurrence → Option Nat
  | .accepted _ => some d.nextId
  | .command _ => none
  | .report _ id _ | .attempted _ id _ => some id

/-- What an occurrence submits on account of a connection or attempt. -/
def told (d : Dispatcher) (id : Nat) (o : Occurrence) : List Task :=
  if d.subject? o = some id then (d.step o).2.filterMap Deed.task? else []

/-- All that is submitted on account of a connection or attempt, over any occurrences. -/
def account (d : Dispatcher) (id : Nat) : List Occurrence → List Task
  | [] => []
  | o :: os => d.told id o ++ (d.step o).1.account id os

theorem told_of_subject_ne (h : d.subject? o ≠ some id) : d.told id o = [] := if_neg h

theorem told_of_silent (h : (d.step o).2.filterMap Deed.task? = []) : d.told id o = [] := by
  rw [told, h, ite_self]

theorem account_cons_of_silent (h : d.told id o = []) (os : List Occurrence) :
    d.account id (o :: os) = (d.step o).1.account id os := by
  rw [account, h, List.nil_append]

/-- A report that is not that of the peer's connection changes nothing. -/
theorem step_report_stale (h : d.connections.get? peer ≠ some id) (r : Report) :
    (d.step (.report peer id r)).1 = d ∧
      (d.step (.report peer id r)).2.filterMap Deed.task? = [] := by
  rw [step]
  unfold report
  rw [if_pos h]
  exact ⟨rfl, rfl⟩

/-- The end of an attempt that is not that of the peer changes nothing. -/
theorem step_attempted_stale (h : d.connecting.get? peer ≠ some id)
    (result : Except IoFault Unit) :
    (d.step (.attempted peer id result)).1 = d ∧
      (d.step (.attempted peer id result)).2.filterMap Deed.task? = [] := by
  rw [step]
  unfold attempted
  rw [if_pos h]
  exact ⟨rfl, rfl⟩

/-- Commands are told to no session. -/
theorem Does.tasks_command {c : Command} (h : Does d (.command c) d' deeds) :
    deeds.filterMap Deed.task? = [] := by
  cases h with
  | nothing hd | starts _ hd | closes hd => exact hd.tasks

theorem told_command (c : Command) : d.told id (.command c) = [] :=
  told_of_silent (does_step d _).tasks_command

/-! ### Numbers that are done with -/

/-- A number that was handed out and stands for nothing any more. -/
structure Gone (d : Dispatcher) (id : Nat) : Prop where
  below : id < d.nextId
  connections : ∀ p, d.connections.get? p ≠ some id
  connecting : ∀ p, d.connecting.get? p ≠ some id

namespace Gone

theorem told (h : d.Gone id) (o : Occurrence) : d.told id o = [] := by
  by_cases ho : d.subject? o = some id
  · apply told_of_silent
    cases o with
    | accepted p => exact absurd h.below (by simp [← Option.some.inj ho])
    | command c => cases ho
    | report p i r =>
      obtain rfl : i = id := Option.some.inj ho
      exact (step_report_stale (h.connections p) r).2
    | attempted p i result =>
      obtain rfl : i = id := Option.some.inj ho
      exact (step_attempted_stale (h.connecting p) result).2
  · exact told_of_subject_ne ho

theorem does (h : d.Gone id) (hdoes : Does d o d' deeds) : d'.Gone id := by
  have hinsert : ∀ {t : Table PeerAddress Nat} {p i}, (∀ q, t.get? q ≠ some id) → i ≠ id →
      ∀ q, (t.insert p i).get? q ≠ some id := by
    intro t p i ht hi q
    rw [Table.get?_insert]
    split
    · exact fun heq => hi (Option.some.inj heq)
    · exact ht q
  have herase : ∀ {t : Table PeerAddress Nat} {p}, (∀ q, t.get? q ≠ some id) →
      ∀ q, (t.erase p).get? q ≠ some id :=
    fun ht q hq => ht q (Table.get?_of_erase hq)
  cases hdoes with
  | nothing => exact h
  | accepts =>
    exact ⟨Nat.lt_succ_of_lt h.below, hinsert h.connections h.below.ne', h.connecting⟩
  | starts => exact ⟨Nat.lt_succ_of_lt h.below, h.connections, hinsert h.connecting h.below.ne'⟩
  | closes => exact ⟨h.below, herase h.connections, herase h.connecting⟩
  | reads | halts => exact ⟨h.below, h.connections, h.connecting⟩
  | loses => exact ⟨h.below, herase h.connections, h.connecting⟩
  | fails => exact ⟨h.below, h.connections, herase h.connecting⟩
  | @connects _ p i _ hid =>
    refine ⟨h.below, hinsert h.connections ?_, herase h.connecting⟩
    rintro rfl
    exact h.connecting p hid

/-- Nothing more is told of it. -/
theorem account (h : d.Gone id) (os : List Occurrence) : d.account id os = [] := by
  induction os generalizing d with
  | nil => rfl
  | cons o os ih =>
    rw [account_cons_of_silent (h.told o)]
    exact ih (h.does (does_step d o))

end Gone

/-! ### The present connection of a peer -/

theorem held_of_connection (h : d.connections.get? peer = some id) : (id, peer) ∈ d.holdings :=
  List.mem_map_of_mem (f := Prod.swap) (List.mem_append_left _ (Table.mem_entries_of_get? h))

theorem held_of_attempt (h : d.connecting.get? peer = some id) : (id, peer) ∈ d.holdings :=
  List.mem_map_of_mem (f := Prod.swap) (List.mem_append_right _ (Table.mem_entries_of_get? h))

section

variable (hn : HandedOut d.nextId d.holdings)
include hn

theorem lt_of_connection (h : d.connections.get? peer = some id) : id < d.nextId :=
  hn.below _ (held_of_connection h)

theorem lt_of_attempt (h : d.connecting.get? peer = some id) : id < d.nextId :=
  hn.below _ (held_of_attempt h)

end

/-- What becomes of a connection when it is told nothing: it keeps all it has. -/
structure Kept (d d' : Dispatcher) (peer : PeerAddress) (id : Nat) : Prop where
  connection : d'.connections.get? peer = some id
  halted : id ∈ d'.halted ↔ id ∈ d.halted
  limit : d'.reassembly.limit = d.reassembly.limit
  pending : d'.reassembly.pendingOf peer = d.reassembly.pendingOf peer

section Present

variable (ht : d.Tidy) (hn : HandedOut d.nextId d.holdings)
variable (hcur : d.connections.get? peer = some id)
include hn hcur

theorem connection_unique (hq : d.connections.get? q = some id) : q = peer :=
  hn.unique (held_of_connection hq) (held_of_connection hcur)

include ht

theorem not_attempted (q : PeerAddress) : d.connecting.get? q ≠ some id := by
  intro hq
  obtain rfl : q = peer := hn.unique (held_of_attempt hq) (held_of_connection hcur)
  rw [ht.no_connection hq] at hcur
  cases hcur

/-- Without its connection nothing is left of a number. -/
theorem gone_forget {connecting : Table PeerAddress Nat}
    (hsub : ∀ p, connecting.get? p = some id → d.connecting.get? p = some id) :
    Gone { d.forget peer with connecting } id where
  below := hn.below _ (held_of_connection hcur)
  connections p hp := by
    rw [forget, Table.get?_erase] at hp
    split at hp
    · cases hp
    · rename_i hne
      exact hne (connection_unique hn hcur hp)
  connecting p hp := not_attempted ht hn hcur p (hsub p hp)

/-- Occurrences that are no read of a connection, nor its end, leave it as it is. -/
theorem kept_does (hread : o.read? peer id = none) (hends : o.ends peer id = false)
    (hdoes : Does d o d' deeds) : Kept d d' peer id := by
  have hne_of_none : ∀ {q}, d.connections.get? q = none → peer ≠ q := by
    rintro _ hnone rfl
    rw [hnone] at hcur
    cases hcur
  have hforget : ∀ {q} (connecting : Table PeerAddress Nat), peer ≠ q →
      Kept d { d.forget q with connecting } peer id := by
    intro q connecting hne
    refine ⟨(Table.get?_erase_of_ne _ hne).trans hcur, ?_, rfl, ?_⟩
    · have hother : d.connections.get? q ≠ some id :=
        fun hq => hne (connection_unique hn hcur hq).symm
      simp [forget, hother]
    · rw [forget, Reassembly.pendingOf_remove, if_neg hne]
  cases hdoes with
  | nothing | starts => exact ⟨hcur, Iff.rfl, rfl, rfl⟩
  | accepts hnew =>
    exact ⟨(Table.get?_insert_of_ne _ _ (hne_of_none hnew)).trans hcur, Iff.rfl, rfl, rfl⟩
  | @closes _ q =>
    refine hforget _ ?_
    rintro rfl
    simp [Occurrence.ends, Occurrence.closes] at hends
  | @reads _ q i data _ hid | @halts _ q i data _ hid =>
    have hne : peer ≠ q := by
      rintro rfl
      obtain rfl : id = i := Option.some.inj (hcur.symm.trans hid)
      simp [Occurrence.read?] at hread
    refine ⟨hcur, ?_, Reassembly.limit_feed .., Reassembly.pendingOf_feed_of_ne hne⟩
    have hi : id ≠ i := by
      rintro rfl
      exact hne (connection_unique hn hcur hid).symm
    simp [hi]
  | @loses _ q i loss hid =>
    refine hforget _ ?_
    rintro rfl
    obtain rfl : id = i := Option.some.inj (hcur.symm.trans hid)
    simp [Occurrence.ends, Occurrence.loses] at hends
  | fails => exact ⟨hcur, Iff.rfl, rfl, rfl⟩
  | connects hid =>
    have hne := hne_of_none (ht.no_connection hid)
    exact ⟨(Table.get?_insert_of_ne _ _ hne).trans hcur, Iff.rfl, rfl, rfl⟩

/-- Nothing else is told on account of a connection than its reads and its end. -/
theorem told_of_other (hread : o.read? peer id = none) (hends : o.ends peer id = false) :
    d.told id o = [] := by
  by_cases ho : d.subject? o = some id
  · apply told_of_silent
    cases o with
    | accepted p =>
      exact absurd (lt_of_connection hn hcur) (by simp [← Option.some.inj ho])
    | command c => cases ho
    | report q i r =>
      obtain rfl : i = id := Option.some.inj ho
      refine (step_report_stale (fun hq => ?_) r).2
      obtain rfl : q = peer := connection_unique hn hcur hq
      cases r with
      | data data => simp [Occurrence.read?] at hread
      | lost loss => simp [Occurrence.ends, Occurrence.loses] at hends
    | attempted q i result =>
      obtain rfl : i = id := Option.some.inj ho
      exact (step_attempted_stale (not_attempted ht hn hcur q) result).2
  · exact told_of_subject_ne ho

end Present

/-- What is yet to be told of the present connection of a peer. -/
def outlook (d : Dispatcher) (peer : PeerAddress) (id : Nat) (os : List Occurrence) :
    List SessionEvent :=
  if id ∈ d.halted then farewell peer id os else conversation d.reassembly peer id os

theorem outlook_of_halted (h : id ∈ d.halted) (os : List Occurrence) :
    d.outlook peer id os = farewell peer id os := if_pos h

theorem outlook_of_not_halted (h : id ∉ d.halted) (os : List Occurrence) :
    d.outlook peer id os = conversation d.reassembly peer id os := if_neg h

theorem Kept.outlook_cons (h : Kept d d' peer id) (hread : o.read? peer id = none)
    (hends : o.ends peer id = false) (os : List Occurrence) :
    d.outlook peer id (o :: os) = d'.outlook peer id os := by
  unfold outlook
  rw [farewell_cons_of_not_ends hends, conversation_cons_of_other hends hread,
    conversation_congr h.limit.symm h.pending.symm]
  simp only [h.halted]

theorem outlook_cons_of_ends (h : o.ends peer id = true) (os : List Occurrence) :
    d.outlook peer id (o :: os) = if o.loses peer id = true then [.connectionLost] else [] := by
  unfold outlook
  rw [conversation_cons_of_ends h, farewell, List.find?_cons_of_pos h]
  exact ite_self _

/-- What is told of the end of a connection, and that nothing is left of it. -/
theorem told_of_ends (ht : d.Tidy) (hn : HandedOut d.nextId d.holdings)
    (hcur : d.connections.get? peer = some id) (ho : o.ends peer id = true) :
    d.told id o = (if o.loses peer id = true then [SessionEvent.connectionLost] else []).map
        (Task.mk peer) ∧ (d.step o).1.Gone id := by
  cases o with
  | accepted p => cases ho
  | attempted p i result => cases ho
  | command c =>
    cases c with
    | connect p => cases ho
    | send p data => cases ho
    | close p =>
      obtain rfl : p = peer := by
        simpa [Occurrence.ends, Occurrence.closes, Occurrence.loses] using ho
      exact ⟨rfl, gone_forget ht hn hcur fun q hq => Table.get?_of_erase hq⟩
  | report p i r =>
    cases r with
    | data data => cases ho
    | lost loss =>
      obtain ⟨rfl, rfl⟩ : p = peer ∧ i = id := by
        simpa [Occurrence.ends, Occurrence.closes, Occurrence.loses] using ho
      have hstep : d.step (.report p i (.lost loss)) = (d.forget p,
          [.remark (loss.entry (aboutLink p i)), .drop i, .submit p .connectionLost]) := by
        simp [step, report, hcur]
      rw [told, subject?, if_pos rfl, hstep, if_pos (by simp [Occurrence.loses])]
      exact ⟨rfl, gone_forget ht hn hcur fun q hq => hq⟩

/-- What is told of a read, and that the connection stays. -/
theorem told_of_read (hcur : d.connections.get? peer = some id) (data : Octets) :
    ∃ events : List SessionEvent,
      d.told id (.report peer id (.data data)) = events.map (Task.mk peer) ∧
        (d.step (.report peer id (.data data))).1.connections.get? peer = some id ∧
        ∀ os, d.outlook peer id (.report peer id (.data data) :: os) =
          events ++ (d.step (.report peer id (.data data))).1.outlook peer id os := by
  rw [told, subject?, if_pos rfl]
  by_cases hh : id ∈ d.halted
  · have hstep : d.step (.report peer id (.data data)) = (d, []) := by
      simp [step, report, hcur, hh]
    rw [hstep]
    refine ⟨[], rfl, hcur, fun os => ?_⟩
    rw [outlook_of_halted hh, outlook_of_halted hh, farewell_cons_read, List.nil_append]
  · have hstep : d.step (.report peer id (.data data)) = d.receive peer id data := by
      simp [step, report, hcur, hh]
    rw [hstep, receive]
    cases hfed : (d.reassembly.feed peer data).result with
    | error e =>
      dsimp only
      refine ⟨[.framingFailed], rfl, hcur, fun os => ?_⟩
      rw [outlook_of_not_halted hh, outlook_of_halted List.mem_cons_self,
        conversation_cons_halt hfed, List.singleton_append]
    | ok messages =>
      dsimp only
      refine ⟨messages.map .network, ?_, hcur, fun os => ?_⟩
      · simp [List.filterMap_append, List.filterMap_map, Deed.task?, Function.comp_def]
      · let next : Dispatcher := { d with reassembly := (d.reassembly.feed peer data).next }
        have hnext : id ∉ next.halted := hh
        rw [outlook_of_not_halted hh, conversation_cons_read hfed]
        exact congrArg _ (outlook_of_not_halted hnext os).symm

/-! ### Numbers that nothing was told of -/

/-- A number that was not handed out yet, or stands for an attempt. -/
def Fresh (d : Dispatcher) (id : Nat) : Prop :=
  d.nextId ≤ id ∨ ∃ p, d.connecting.get? p = some id

/-- A number that is fresh was so before. -/
theorem Fresh.of_does (hdoes : Does d o d' deeds) (h : d'.Fresh id) : d.Fresh id := by
  have herase : ∀ {p}, (∃ q, (d.connecting.erase p).get? q = some id) →
      ∃ q, d.connecting.get? q = some id :=
    fun ⟨q, hq⟩ => ⟨q, Table.get?_of_erase hq⟩
  cases hdoes with
  | nothing | reads | halts | loses => exact h
  | accepts => exact h.imp_left Nat.le_of_succ_le
  | starts =>
    rcases h with h | ⟨q, hq⟩
    · exact .inl (Nat.le_of_succ_le h)
    · rw [Table.get?_insert] at hq
      split at hq
      · exact .inl (Option.some.inj hq).le
      · exact .inr ⟨q, hq⟩
  | closes | fails | connects => exact h.imp_right herase

section Unheard

variable (ht : d.Tidy) (hn : HandedOut d.nextId d.holdings)
include ht hn

theorem Fresh.no_connection (h : d.Fresh id) (p : PeerAddress) :
    d.connections.get? p ≠ some id := by
  intro hp
  rcases h with h | ⟨q, hq⟩
  · exact absurd (lt_of_connection hn hp) (Nat.not_lt.mpr h)
  · exact not_attempted ht hn hp q hq

/-- As long as a number stays fresh nothing is told of it. -/
theorem told_of_fresh (h : (d.step o).1.Fresh id) : d.told id o = [] := by
  have hdoes := does_step d o
  have hbefore : d.Fresh id := h.of_does hdoes
  by_cases ho : d.subject? o = some id
  · apply told_of_silent
    cases o with
    | command c => cases ho
    | report p i r =>
      obtain rfl : i = id := Option.some.inj ho
      exact (step_report_stale (hbefore.no_connection ht hn p) r).2
    | accepted p =>
      obtain rfl : d.nextId = id := Option.some.inj ho
      generalize d.step (.accepted p) = after at h hdoes
      obtain ⟨d', deeds⟩ := after
      cases hdoes with
      | nothing hd => exact hd.tasks
      | accepts =>
        -- the number is handed out, and not to an attempt
        rcases h with h | ⟨q, hq⟩
        · exact absurd h (Nat.not_succ_le_self _)
        · exact absurd (lt_of_attempt hn hq) (Nat.lt_irrefl _)
    | attempted p i result =>
      obtain rfl : i = id := Option.some.inj ho
      -- an attempt that ends is not there any more
      have hended : d.connecting.get? p = some i →
          ¬(d.nextId ≤ i ∨ ∃ q, (d.connecting.erase p).get? q = some i) := by
        rintro hp (hle | ⟨q, hq⟩)
        · exact absurd (lt_of_attempt hn hp) (Nat.not_lt.mpr hle)
        · have hsame : q = p :=
            hn.unique (held_of_attempt (Table.get?_of_erase hq)) (held_of_attempt hp)
          rw [hsame, Table.get?_erase_self] at hq
          cases hq
      generalize d.step (.attempted p i result) = after at h hdoes
      obtain ⟨d', deeds⟩ := after
      cases hdoes with
      | nothing hd => exact hd.tasks
      | fails hid => exact absurd h (hended hid)
      | connects hid => exact absurd h (hended hid)
  · exact told_of_subject_ne ho

end Unheard

section Runs

variable {maxConnection maxPackageSize : Nat} {os before later : List Occurrence}

/-- **What is told of a connection from now on** is told by its own reads and its end. -/
theorem account_of_open
    (hcur : (run maxConnection maxPackageSize before).1.connections.get? peer = some id)
    (os : List Occurrence) :
    (run maxConnection maxPackageSize before).1.account id os =
      ((run maxConnection maxPackageSize before).1.outlook peer id os).map (Task.mk peer) := by
  induction os generalizing before with
  | nil =>
    unfold outlook
    split <;> rfl
  | cons o os ih =>
    specialize @ih (before ++ [o])
    have ht : (run maxConnection maxPackageSize before).1.Tidy := tidy_run before
    have hn := (@numbered_run maxConnection maxPackageSize before).held
    rw [run_concat] at ih
    generalize (run maxConnection maxPackageSize before).1 = d at *
    rw [account]
    cases hends : o.ends peer id with
    | true =>
      obtain ⟨htold, hgone⟩ := told_of_ends ht hn hcur hends
      rw [htold, hgone.account, outlook_cons_of_ends hends, List.append_nil]
    | false =>
      cases hread : o.read? peer id with
      | none =>
        have hkept := kept_does ht hn hcur hread hends (does_step d o)
        rw [told_of_other ht hn hcur hread hends, ih hkept.connection,
          hkept.outlook_cons hread hends]
        rfl
      | some data =>
        obtain rfl := Occurrence.eq_of_read? hread
        obtain ⟨events, htold, hstays, houtlook⟩ := told_of_read hcur data
        rw [htold, ih hstays, houtlook, List.map_append]

/-- What was told before and what is told from then on. -/
theorem account_append (before later : List Occurrence) :
    (init maxConnection maxPackageSize).account id (before ++ later) =
      (init maxConnection maxPackageSize).account id before ++
        (run maxConnection maxPackageSize before).1.account id later := by
  induction before using List.reverseRecOn generalizing later with
  | nil => rfl
  | append_singleton before o ih =>
    rw [List.append_assoc, ih, ih [o], run_concat]
    simp only [account, List.singleton_append, List.append_nil, List.append_assoc]

theorem account_concat (before : List Occurrence) (o : Occurrence) :
    (init maxConnection maxPackageSize).account id (before ++ [o]) =
      (init maxConnection maxPackageSize).account id before ++
        (run maxConnection maxPackageSize before).1.told id o := by
  rw [account_append, account, account, List.append_nil]

/-- Nothing was told on account of a number that is fresh. -/
theorem account_of_fresh (h : (run maxConnection maxPackageSize before).1.Fresh id) :
    (init maxConnection maxPackageSize).account id before = [] := by
  induction before using List.reverseRecOn with
  | nil => rfl
  | append_singleton before o ih =>
    rw [run_concat] at h
    rw [account_concat, ih (h.of_does (does_step _ o)),
      told_of_fresh (tidy_run before) (numbered_run before).held h, List.append_nil]

/-- A deed is done at some occurrence. -/
theorem mem_run {deed : Deed} :
    deed ∈ (run maxConnection maxPackageSize os).2 ↔ ∃ before o later, os = before ++ o :: later ∧
      deed ∈ ((run maxConnection maxPackageSize before).1.step o).2 := by
  induction os using List.reverseRecOn with
  | nil => simp [run]
  | append_singleton os o ih =>
    rw [run_concat, List.mem_append, ih]
    constructor
    · rintro (⟨before, o', later, rfl, hmem⟩ | hmem)
      · exact ⟨before, o', later ++ [o], by simp, hmem⟩
      · exact ⟨os, o, [], rfl, hmem⟩
    · rintro ⟨before, o', later, hos, hmem⟩
      rcases List.eq_nil_or_concat later with rfl | ⟨later, o'', rfl⟩
      · obtain ⟨rfl, heq⟩ := List.append_inj' hos rfl
        cases heq
        exact .inr hmem
      · rw [List.concat_eq_append, ← List.cons_append, ← List.append_assoc] at hos
        obtain ⟨rfl, -⟩ := List.append_inj' hos rfl
        exact .inl ⟨before, o', later, rfl, hmem⟩

/-- The connection of a peer was registered. -/
theorem Does.registered_of_connection (hdoes : Does d o d' deeds)
    (h : d'.connections.get? peer = some id) :
    d.connections.get? peer = some id ∨ (id, peer) ∈ deeds.filterMap Deed.registration? := by
  have hinsert : ∀ {p i}, (d.connections.insert p i).get? peer = some id →
      d.connections.get? peer = some id ∨ (id, peer) = (i, p) := by
    intro p i hget
    rw [Table.get?_insert] at hget
    split at hget
    · rename_i hp
      exact .inr (by rw [hp, Option.some.inj hget])
    · exact .inl hget
  cases hdoes with
  | nothing | starts | reads | halts | fails => exact .inl h
  | closes | loses => exact .inl (Table.get?_of_erase h)
  | accepts _ _ _ hd | connects _ _ hd =>
    rw [hd.registered, List.mem_singleton]
    exact hinsert h

theorem registered_of_connection
    (h : (run maxConnection maxPackageSize os).1.connections.get? peer = some id) :
    (id, peer) ∈ (run maxConnection maxPackageSize os).2.filterMap Deed.registration? := by
  induction os using List.reverseRecOn with
  | nil => cases h
  | append_singleton os o ih =>
    rw [run_concat] at h ⊢
    rw [List.filterMap_append, List.mem_append]
    exact ((does_step _ o).registered_of_connection h).imp_left ih

end Runs

/-! ### The two stories -/

/-- A peer that connects is told of when it gets a connection. -/
theorem Does.register_of_accepted (h : Does d (.accepted peer) d' deeds)
    (htold : deeds.filterMap Deed.task? ≠ []) : .register d.nextId peer ∈ deeds := by
  cases h with
  | nothing hd => exact absurd hd.tasks htold
  | accepts _ _ _ hd =>
    apply Deed.mem_of_registration
    rw [hd.registered]
    exact List.mem_singleton_self _

/-- An attempt that failed gives no connection. -/
theorem ok_of_register {p : PeerAddress} {i : Nat} {result : Except IoFault Unit}
    (hreg : Deed.register id peer ∈ (d.step (.attempted p i result)).2) : result = .ok () := by
  cases result with
  | ok _ => rfl
  | error fault =>
    rw [step] at hreg
    unfold attempted at hreg
    split at hreg <;> simp at hreg

/-- A connection that is put to work was accepted or attempted and was not told of before, and what
it is told then says which. -/
theorem told_of_register (ht : d.Tidy) (hreg : Deed.register id peer ∈ (d.step o).2) :
    ∃ opening, (o = .accepted peer ∧ opening = .accepted ∨
        o = .attempted peer id (.ok ()) ∧ opening = .transportUp) ∧
      d.told id o = [⟨peer, opening⟩] ∧ d.Fresh id ∧
      (d.step o).1.halted = d.halted ∧ (d.step o).1.reassembly = d.reassembly := by
  have hmem : (id, peer) ∈ (d.step o).2.filterMap Deed.registration? :=
    List.mem_filterMap.mpr ⟨_, hreg, rfl⟩
  have hok : ∀ p i result, o = .attempted p i result → result = .ok () := by
    rintro p i result rfl
    exact ok_of_register hreg
  have hdoes := does_step d o
  rw [told]
  generalize d.step o = after at hmem hdoes
  obtain ⟨d', deeds⟩ := after
  cases hdoes with
  | nothing hd | starts _ hd | closes hd | reads _ _ hd | halts _ _ hd | loses _ hd | fails _ hd =>
    rw [hd.registered] at hmem
    cases hmem
  | accepts _ _ _ hd =>
    rw [hd.registered] at hmem
    cases List.mem_singleton.mp hmem
    exact ⟨.accepted, .inl ⟨rfl, rfl⟩, (if_pos rfl).trans hd.tasks, .inl le_rfl, rfl, rfl⟩
  | connects hid _ hd =>
    rw [hd.registered] at hmem
    cases List.mem_singleton.mp hmem
    refine ⟨.transportUp, .inr ⟨?_, rfl⟩, (if_pos rfl).trans hd.tasks, .inr ⟨_, hid⟩, rfl, rfl⟩
    rw [hok _ _ _ rfl]

/-- Why the present attempt of a peer fails. -/
def Fails (d : Dispatcher) (result : Except IoFault Unit) : Prop :=
  (∃ fault, result = .error fault) ∨ d.limit ≤ d.connections.size

/-- An attempt that fails says so, and nothing is left of it. -/
theorem told_of_fails (ht : d.Tidy) (hn : HandedOut d.nextId d.holdings)
    (hid : d.connecting.get? peer = some id) {result : Except IoFault Unit}
    (hfails : d.Fails result) :
    d.told id (.attempted peer id result) = [⟨peer, .transportFailed⟩] ∧
      (d.step (.attempted peer id result)).1.Gone id := by
  have hbelow : id < d.nextId := lt_of_attempt hn hid
  have hnone : ∀ q, d.connections.get? q ≠ some id := Fresh.no_connection ht hn (.inr ⟨peer, hid⟩)
  have hgone : Gone { d with connecting := d.connecting.erase peer } id := by
    refine ⟨hbelow, hnone, fun q hq => ?_⟩
    have hsame : q = peer :=
      hn.unique (held_of_attempt (Table.get?_of_erase hq)) (held_of_attempt hid)
    rw [hsame, Table.get?_erase_self] at hq
    cases hq
  rw [told, subject?, if_pos rfl, step]
  unfold attempted
  rw [if_neg (not_not.mpr hid)]
  cases result with
  | error fault => exact ⟨rfl, hgone⟩
  | ok _ =>
    have hfull : hasRoom { d with connecting := d.connecting.erase peer } = false := by
      rcases hfails with ⟨fault, hfault⟩ | hfull
      · cases hfault
      · simpa [hasRoom] using hfull
    dsimp only
    rw [if_neg (by simp [hfull])]
    exact ⟨rfl, hgone⟩

/-- An attempt that does not fail gives a connection. -/
theorem register_of_not_fails (hid : d.connecting.get? peer = some id)
    {result : Except IoFault Unit} (hfails : ¬d.Fails result) :
    .register id peer ∈ (d.step (.attempted peer id result)).2 := by
  cases result with
  | error fault => exact absurd (.inl ⟨fault, rfl⟩) hfails
  | ok _ =>
    have hroom : d.connections.size < d.limit := Nat.lt_of_not_le fun hfull => hfails (.inr hfull)
    simp [step, attempted, hid, hasRoom, hroom]

section Runs

variable {maxConnection maxPackageSize : Nat} {os before later : List Occurrence}

/-- **A connection that is put to work** has its conversation told, behind that it is up. -/
theorem account_of_register
    (hreg : Deed.register id peer ∈ ((run maxConnection maxPackageSize before).1.step o).2) :
    ∃ opening, (o = .accepted peer ∧ opening = .accepted ∨
        o = .attempted peer id (.ok ()) ∧ opening = .transportUp) ∧
      ∀ later, (init maxConnection maxPackageSize).account id (before ++ o :: later) =
        (opening :: conversation (.init maxPackageSize) peer id later).map (Task.mk peer) := by
  have ht : (run maxConnection maxPackageSize before).1.Tidy := tidy_run before
  have hn := (@numbered_run maxConnection maxPackageSize before).held
  obtain ⟨hnew, -, hcur, -⟩ := ht.registers (does_step _ o) hreg
  obtain ⟨opening, hopening, htold, hfresh, hhalted, hreassembly⟩ := told_of_register ht hreg
  refine ⟨opening, hopening, fun later => ?_⟩
  have hopen := @account_of_open peer id maxConnection maxPackageSize (before ++ [o])
  rw [run_concat] at hopen
  have hunread : id ∉ ((run maxConnection maxPackageSize before).1.step o).1.halted := by
    rw [hhalted]
    intro hid
    obtain ⟨p, hp⟩ := ht.halted id hid
    exact hfresh.no_connection ht hn p hp
  have hconversation : conversation
      ((run maxConnection maxPackageSize before).1.step o).1.reassembly peer id later =
        conversation (.init maxPackageSize) peer id later := by
    have hlimit : (run maxConnection maxPackageSize before).1.reassembly.limit =
      (Reassembly.init maxPackageSize).limit := (limit_run before).2
    rw [hreassembly]
    exact conversation_congr hlimit (ht.pending peer hnew) later
  rw [account_append, account_of_fresh hfresh, account, htold, hopen hcur later,
    outlook_of_not_halted hunread, hconversation]
  rfl

/-- **An attempt that fails** has nothing else told. -/
theorem account_of_fails {result : Except IoFault Unit}
    (hid : (run maxConnection maxPackageSize before).1.connecting.get? peer = some id)
    (hfails : (run maxConnection maxPackageSize before).1.Fails result)
    (later : List Occurrence) :
    (init maxConnection maxPackageSize).account id (before ++ .attempted peer id result :: later) =
      [⟨peer, .transportFailed⟩] := by
  have hn := (@numbered_run maxConnection maxPackageSize before).held
  obtain ⟨htold, hgone⟩ := told_of_fails (tidy_run before) hn hid hfails
  rw [account_append, account_of_fresh (.inr ⟨peer, hid⟩), account, htold, hgone.account]
  rfl

/-- Nothing is told but of a connection that was put to work, or of an attempt that failed. -/
theorem story_of_account (h : (init maxConnection maxPackageSize).account id os ≠ []) :
    (∃ before o later peer, os = before ++ o :: later ∧
        .register id peer ∈ ((run maxConnection maxPackageSize before).1.step o).2) ∨
      ∃ before later peer result, os = before ++ .attempted peer id result :: later ∧
        (run maxConnection maxPackageSize before).1.connecting.get? peer = some id ∧
        (run maxConnection maxPackageSize before).1.Fails result := by
  induction os using List.reverseRecOn with
  | nil => exact absurd rfl h
  | append_singleton os o ih =>
    by_cases hos : (init maxConnection maxPackageSize).account id os = []
    · rw [account_concat, hos, List.nil_append] at h
      by_cases hsubject : (run maxConnection maxPackageSize os).1.subject? o = some id
      · cases o with
        | command c => cases hsubject
        | accepted p =>
          rw [told, if_pos hsubject] at h
          obtain rfl := Option.some.inj hsubject
          exact .inl ⟨os, _, [], p, rfl, (does_step _ (.accepted p)).register_of_accepted h⟩
        | report p i r =>
          obtain rfl : i = id := Option.some.inj hsubject
          by_cases hcur : (run maxConnection maxPackageSize os).1.connections.get? p = some i
          · have hregistered := Deed.mem_of_registration (registered_of_connection hcur)
            obtain ⟨before, o, later, rfl, hreg⟩ := mem_run.mp hregistered
            exact .inl ⟨before, o, later ++ [.report p i r], p, by simp, hreg⟩
          · exact absurd (told_of_silent (step_report_stale hcur r).2) h
        | attempted p i result =>
          obtain rfl : i = id := Option.some.inj hsubject
          by_cases hid : (run maxConnection maxPackageSize os).1.connecting.get? p = some i
          · by_cases hfails : (run maxConnection maxPackageSize os).1.Fails result
            · exact .inr ⟨os, [], p, result, rfl, hid, hfails⟩
            · exact .inl ⟨os, _, [], p, rfl, register_of_not_fails hid hfails⟩
          · exact absurd (told_of_silent (step_attempted_stale hid result).2) h
      · exact absurd (told_of_subject_ne hsubject) h
    · rcases ih hos with ⟨before, o', later, p, rfl, hreg⟩ |
        ⟨before, later, p, result, rfl, hid, hf⟩
      · exact .inl ⟨before, o', later ++ [o], p, by simp, hreg⟩
      · exact .inr ⟨before, later ++ [o], p, result, by simp, hid, hf⟩

/-- **Once a peer is closed** nothing is told of the connections and attempts it had. -/
theorem account_of_closed
    (hpeer : .register id peer ∈ (run maxConnection maxPackageSize before).2 ∨
      .attempt id peer ∈ (run maxConnection maxPackageSize before).2)
    (later : List Occurrence) :
    (init maxConnection maxPackageSize).account id (before ++ .command (.close peer) :: later) =
      (init maxConnection maxPackageSize).account id before := by
  have hn := @numbered_run maxConnection maxPackageSize before
  have hmem : (id, peer) ∈ (run maxConnection maxPackageSize before).2.filterMap
        Deed.registration? ∨
      (id, peer) ∈ (run maxConnection maxPackageSize before).2.filterMap Deed.start? := by
    refine hpeer.imp (fun h => ?_) fun h => ?_
    · exact List.mem_filterMap.mpr ⟨_, h, rfl⟩
    · exact List.mem_filterMap.mpr ⟨_, h, rfl⟩
  have hgone : ((run maxConnection maxPackageSize before).1.step (.command (.close peer))).1.Gone
      id := by
    refine ⟨hmem.elim (hn.connected.below _) (hn.tried.below _), fun p hp => ?_, fun p hp => ?_⟩
    · -- a connection under the number is that of the peer, which has none now
      have hreg := registered_of_connection (Table.get?_of_erase hp)
      obtain rfl : p = peer :=
        hmem.elim (fun h => hn.connected.unique hreg h) fun h => hn.origin id p peer hreg h
      rw [step, command, close, forget, Table.get?_erase_self] at hp
      cases hp
    · -- and so is an attempt
      obtain ⟨hnew, hstart⟩ := hn.waiting p id (Table.mem_entries_of_get? (Table.get?_of_erase hp))
      obtain rfl : p = peer := hmem.elim (fun h => absurd (List.mem_map_of_mem h) hnew) fun h =>
        hn.tried.unique hstart h
      rw [step, command, close, Table.get?_erase_self] at hp
      cases hp
  rw [account_append, account_cons_of_silent (told_command _), hgone.account, List.append_nil]

end Runs

/-- **What is told on account of one connection or attempt**, over any occurrences in any order.
A connection that is put to work is told of as accepted or up, once; then come the messages that its
own reads give, up to the first that can not be framed, that framing failed if it did, and that it
was lost if it was and its peer was not closed before.  An attempt that fails, or finds no room, has
that told and nothing else, and nothing is told of any other number.  Once a peer is closed, nothing
is told of the numbers it had.  Reports of connections and ends of attempts that are not the peer's
present ones change nothing and are not told, and no command is. -/
theorem account_tells_conversation (maxConnection maxPackageSize : Nat) (os : List Occurrence)
    (id : Nat) :
    let account := (init maxConnection maxPackageSize).account id
    (∀ before o later peer, os = before ++ o :: later →
        .register id peer ∈ ((run maxConnection maxPackageSize before).1.step o).2 →
        ∃ opening, (o = .accepted peer ∧ opening = .accepted ∨
            o = .attempted peer id (.ok ()) ∧ opening = .transportUp) ∧
          account os = (opening :: conversation (.init maxPackageSize) peer id later).map
            (Task.mk peer)) ∧
      (∀ before later peer result, os = before ++ .attempted peer id result :: later →
        (run maxConnection maxPackageSize before).1.connecting.get? peer = some id →
        (∃ fault, result = .error fault) ∨
          maxConnection ≤ (run maxConnection maxPackageSize before).1.connections.size →
        account os = [⟨peer, .transportFailed⟩]) ∧
      (account os ≠ [] →
        (∃ before o later peer, os = before ++ o :: later ∧
            .register id peer ∈ ((run maxConnection maxPackageSize before).1.step o).2) ∨
          ∃ before later peer result, os = before ++ .attempted peer id result :: later ∧
            (run maxConnection maxPackageSize before).1.connecting.get? peer = some id ∧
            ((∃ fault, result = .error fault) ∨
              maxConnection ≤ (run maxConnection maxPackageSize before).1.connections.size)) ∧
      (∀ before later peer, os = before ++ .command (.close peer) :: later →
        .register id peer ∈ (run maxConnection maxPackageSize before).2 ∨
          .attempt id peer ∈ (run maxConnection maxPackageSize before).2 →
        account os = account before) ∧
      (∀ (d : Dispatcher) peer r, d.connections.get? peer ≠ some id →
        (d.step (.report peer id r)).1 = d ∧
          (d.step (.report peer id r)).2.filterMap Deed.task? = []) ∧
      (∀ (d : Dispatcher) peer result, d.connecting.get? peer ≠ some id →
        (d.step (.attempted peer id result)).1 = d ∧
          (d.step (.attempted peer id result)).2.filterMap Deed.task? = []) ∧
      ∀ (d : Dispatcher) c, (d.step (.command c)).2.filterMap Deed.task? = [] := by
  intro account
  have hlimit : ∀ before, (run maxConnection maxPackageSize before).1.limit = maxConnection :=
    fun before => (limit_run before).1
  refine ⟨?_, ?_, fun h => ?_, ?_, fun d peer r h => step_report_stale h r,
    fun d peer result h => step_attempted_stale h result,
    fun d c => (does_step d (.command c)).tasks_command⟩
  · rintro before o later peer rfl hreg
    obtain ⟨opening, hopening, haccount⟩ := account_of_register hreg
    exact ⟨opening, hopening, haccount later⟩
  · rintro before later peer result rfl hid hfails
    refine account_of_fails hid ?_ later
    rw [Fails, hlimit]
    exact hfails
  · refine (story_of_account h).imp_right ?_
    rintro ⟨before, later, peer, result, rfl, hid, hfails⟩
    rw [Fails, hlimit] at hfails
    exact ⟨before, later, peer, result, rfl, hid, hfails⟩
  · rintro before later peer rfl hpeer
    exact account_of_closed hpeer later

/-- An attempt replaces another and comes up, and the end of the first is late.  A message comes in
two pieces, the next one can not be framed, what follows is not read, and the loss is reported by
both halves.  An attempt to reach another peer finds no room. -/
theorem account_tells_conversation_dialled :
    let p : PeerAddress := .v4 ⟨10, 0, 0, 1⟩ 4189
    let q : PeerAddress := .v4 ⟨10, 0, 0, 2⟩ 4189
    let dialled : List Occurrence := [.command (.connect p), .command (.connect p),
      .attempted p 1 (.ok ())]
    let heard : List Occurrence := [.report p 2 (.data [0x20, 2]), .report p 1 (.data [0, 4]),
      .report p 2 (.data [0, 4]), .report p 2 (.data [0x20, 2, 0, 0]), .command (.connect q)]
    let ended : List Occurrence := [.report p 2 (.data [0x20, 2, 0, 4]),
      .report p 2 (.lost .endOfStream), .report p 2 (.lost .endOfStream)]
    let os := dialled ++ .attempted p 2 (.ok ()) :: (heard ++ .attempted q 3 (.ok ()) :: ended)
    (init 1 64).account 2 os = [⟨p, .transportUp⟩, ⟨p, .network keepaliveMessage⟩,
        ⟨p, .framingFailed⟩, ⟨p, .connectionLost⟩] ∧
      (init 1 64).account 3 os = [⟨q, .transportFailed⟩] := by
  intro p q dialled heard ended os
  constructor
  · obtain ⟨hregister, -⟩ := account_tells_conversation 1 64 os 2
    have hreg : Deed.register 2 p ∈ ((run 1 64 dialled).1.step (.attempted p 2 (.ok ()))).2 := by
      decide +kernel
    obtain ⟨opening, ⟨ho, -⟩ | ⟨-, rfl⟩, haccount⟩ := hregister dialled _ _ p rfl hreg
    · cases ho
    · have htold : conversation (.init 64) p 2 (heard ++ .attempted q 3 (.ok ()) :: ended) =
          [.network keepaliveMessage, .framingFailed, .connectionLost] := by
        decide +kernel
      rw [haccount, htold]
      rfl
  · obtain ⟨-, hfails, -⟩ := account_tells_conversation 1 64 os 3
    have hos : os = (dialled ++ .attempted p 2 (.ok ()) :: heard) ++
        .attempted q 3 (.ok ()) :: ended := rfl
    refine hfails _ _ q _ hos ?_ (.inr ?_)
    · decide +kernel
    · decide +kernel

end Dispatcher

end PathSession
