import Mathlib.Data.List.Nodup
import Mathlib.Data.List.Perm.Subperm
import PathSession.Proofs.Network.Ownership
import PathSession.Proofs.Wire.Reassembly

/-!
# The tables of the dispatcher

The dispatcher keeps four tables: the connections, the attempts to open one, the connections that
are read no further, and the octets that wait for the rest of their message.  Reports of connections
that were dropped and results of attempts that were given up come in at any time, and the tables fit
together all the same.

* `Dispatcher.Does`: all that one occurrence can do, `Dispatcher.does_step`;
* `Dispatcher.run`: a dispatcher over any occurrences, with all its deeds;
* `Dispatcher.nextId_run_le`: how many numbers a run hands out;
* `Dispatcher.Tidy`: how the tables fit together, one lemma for each thing that is done to them;
* `Dispatcher.tables_consistent`: they do after any occurrences, and a new connection starts afresh.
-/

namespace PathSession

namespace Table

variable {κ α : Type} [DecidableEq κ] {t : Table κ α} {k : κ} {a : α}

theorem mem_entries_of_get? (h : t.get? k = some a) : (k, a) ∈ t.entries := by
  unfold get? at h
  obtain ⟨entries⟩ := t
  induction entries with
  | nil => cases h
  | cons e entries ih =>
    rw [List.lookup_cons] at h
    split at h
    · rename_i hk
      rw [eq_of_beq hk, ← Option.some.inj h]
      exact List.mem_cons_self
    · exact List.mem_cons_of_mem _ (ih h)

theorem subperm_of_get? (h : t.get? k = some a) :
    ((k, a) :: (t.erase k).entries).Subperm t.entries := by
  have hmem : (k, a) ∈ t.entries.filter (fun e => !decide (e.1 ≠ k)) :=
    List.mem_filter.mpr ⟨mem_entries_of_get? h, by simp⟩
  refine ((List.singleton_subperm_iff.mpr hmem).append (List.Subperm.refl _)).trans ?_
  exact (List.perm_append_comm.trans (List.filter_append_perm _ _)).subperm

theorem sublist_erase (t : Table κ α) (k : κ) : (t.erase k).entries.Sublist t.entries :=
  List.filter_sublist

theorem size_insert_le (t : Table κ α) (k : κ) (a : α) : (t.insert k a).size ≤ t.size + 1 := by
  rw [size, insert, List.length_append]
  exact Nat.add_le_add_right (t.sublist_erase k).length_le 1

end Table

namespace Deed

/-- The connection that is put to work and its peer, if one is. -/
def registration? : Deed → Option (Nat × PeerAddress)
  | register id peer => some (id, peer)
  | _ => none

/-- The attempt that is started and its peer, if one is. -/
def start? : Deed → Option (Nat × PeerAddress)
  | attempt id peer => some (id, peer)
  | _ => none

/-- The connections that some deeds put to work, the attempts they start and the tasks they
submit. -/
structure Amount (deeds : List Deed) (registered started : List (Nat × PeerAddress))
    (tasks : List Task) : Prop where
  registered : deeds.filterMap registration? = registered
  started : deeds.filterMap start? = started
  tasks : deeds.filterMap task? = tasks

end Deed

namespace Dispatcher

variable {d d' : Dispatcher} {deeds : List Deed} {peer : PeerAddress} {id : Nat}

/-! ### What an occurrence does -/

/-- What can come of an occurrence, for the tables and for the sessions. -/
inductive Does (d : Dispatcher) : Occurrence → Dispatcher → List Deed → Prop
  | nothing {o : Occurrence} {deeds : List Deed} (hd : Deed.Amount deeds [] [] []) :
      Does d o d deeds
  | accepts {deeds : List Deed} {peer : PeerAddress} (hnew : d.connections.get? peer = none)
      (hidle : d.connecting.get? peer = none) (hroom : d.connections.size < d.limit)
      (hd : Deed.Amount deeds [(d.nextId, peer)] [] [⟨peer, .accepted⟩]) :
      Does d (.accepted peer)
        { d with connections := d.connections.insert peer d.nextId, nextId := d.nextId + 1 } deeds
  | starts {deeds : List Deed} {peer : PeerAddress} (hnew : d.connections.get? peer = none)
      (hd : Deed.Amount deeds [] [(d.nextId, peer)] []) :
      Does d (.command (.connect peer))
        { d with connecting := d.connecting.insert peer d.nextId, nextId := d.nextId + 1 } deeds
  | closes {deeds : List Deed} {peer : PeerAddress} (hd : Deed.Amount deeds [] [] []) :
      Does d (.command (.close peer))
        { d.forget peer with connecting := d.connecting.erase peer } deeds
  | reads {deeds : List Deed} {peer : PeerAddress} {id : Nat} {data : Octets}
      {messages : List Message} (hid : d.connections.get? peer = some id)
      (hfed : (d.reassembly.feed peer data).result = .ok messages)
      (hd : Deed.Amount deeds [] [] (messages.map fun m => ⟨peer, .network m⟩)) :
      Does d (.report peer id (.data data))
        { d with reassembly := (d.reassembly.feed peer data).next } deeds
  | halts {deeds : List Deed} {peer : PeerAddress} {id : Nat} {data : Octets} {e : FrameError}
      (hid : d.connections.get? peer = some id)
      (hfed : (d.reassembly.feed peer data).result = .error e)
      (hd : Deed.Amount deeds [] [] [⟨peer, .framingFailed⟩]) :
      Does d (.report peer id (.data data))
        { d with reassembly := (d.reassembly.feed peer data).next, halted := id :: d.halted } deeds
  | loses {deeds : List Deed} {peer : PeerAddress} {id : Nat} {loss : Loss}
      (hid : d.connections.get? peer = some id)
      (hd : Deed.Amount deeds [] [] [⟨peer, .connectionLost⟩]) :
      Does d (.report peer id (.lost loss)) (d.forget peer) deeds
  | fails {deeds : List Deed} {peer : PeerAddress} {id : Nat} {result : Except IoFault Unit}
      (hid : d.connecting.get? peer = some id)
      (hd : Deed.Amount deeds [] [] [⟨peer, .transportFailed⟩]) :
      Does d (.attempted peer id result) { d with connecting := d.connecting.erase peer } deeds
  | connects {deeds : List Deed} {peer : PeerAddress} {id : Nat} {result : Except IoFault Unit}
      (hid : d.connecting.get? peer = some id) (hroom : d.connections.size < d.limit)
      (hd : Deed.Amount deeds [(id, peer)] [] [⟨peer, .transportUp⟩]) :
      Does d (.attempted peer id result)
        { d with
          connecting := d.connecting.erase peer
          connections := d.connections.insert peer id } deeds

theorem does_accept (d : Dispatcher) (peer : PeerAddress) :
    Does d (.accepted peer) (d.accept peer).1 (d.accept peer).2 := by
  unfold accept
  split
  · exact .nothing ⟨rfl, rfl, rfl⟩
  · rename_i hknown
    simp only [Bool.or_eq_true, not_or, Table.contains, Bool.not_eq_true,
      Option.isSome_eq_false_iff, Option.isNone_iff_eq_none] at hknown
    split
    · rename_i hroom
      exact .accepts hknown.1 hknown.2 (by simpa [hasRoom] using hroom) ⟨rfl, rfl, rfl⟩
    · exact .nothing ⟨rfl, rfl, rfl⟩

theorem does_command (d : Dispatcher) (c : Command) :
    Does d (.command c) (d.command c).1 (d.command c).2 := by
  cases c with
  | connect peer =>
    simp only [command, connect]
    split
    · exact .nothing ⟨rfl, rfl, rfl⟩
    · rename_i hnew
      refine .starts (by simpa [Table.contains] using hnew) ?_
      cases d.connecting.get? peer <;> exact ⟨rfl, rfl, rfl⟩
  | send peer data =>
    simp only [command, send]
    split <;> exact .nothing ⟨rfl, rfl, rfl⟩
  | close peer =>
    refine .closes ?_
    simp only [command, close]
    cases d.connecting.get? peer <;> cases d.connections.get? peer <;> exact ⟨rfl, rfl, rfl⟩

theorem does_receive (hid : d.connections.get? peer = some id) (data : Octets) :
    Does d (.report peer id (.data data)) (d.receive peer id data).1
      (d.receive peer id data).2 := by
  simp only [receive]
  split
  · rename_i messages hfed
    refine .reads hid hfed ⟨?_, ?_, ?_⟩
    · simp [List.filterMap_append, List.filterMap_map, Deed.registration?]
    · simp [List.filterMap_append, List.filterMap_map, Deed.start?]
    · simp [List.filterMap_append, List.filterMap_map, Deed.task?, Function.comp_def]
  · rename_i e hfed
    exact .halts hid hfed ⟨rfl, rfl, rfl⟩

theorem does_report (d : Dispatcher) (peer : PeerAddress) (id : Nat) (r : Report) :
    Does d (.report peer id r) (d.report peer id r).1 (d.report peer id r).2 := by
  unfold report
  split
  · exact .nothing ⟨rfl, rfl, rfl⟩
  · rename_i hid
    rw [ne_eq, not_not] at hid
    cases r with
    | data data =>
      dsimp only
      split
      · exact .nothing ⟨rfl, rfl, rfl⟩
      · exact does_receive hid data
    | lost loss => exact .loses hid ⟨rfl, rfl, rfl⟩

theorem does_attempted (d : Dispatcher) (peer : PeerAddress) (id : Nat)
    (result : Except IoFault Unit) :
    Does d (.attempted peer id result) (d.attempted peer id result).1
      (d.attempted peer id result).2 := by
  unfold attempted
  split
  · exact .nothing ⟨rfl, rfl, rfl⟩
  · rename_i hid
    rw [ne_eq, not_not] at hid
    cases result with
    | error fault => exact .fails hid ⟨rfl, rfl, rfl⟩
    | ok _ =>
      dsimp only
      split
      · rename_i hroom
        exact .connects hid (by simpa [hasRoom] using hroom) ⟨rfl, rfl, rfl⟩
      · exact .fails hid ⟨rfl, rfl, rfl⟩

/-- All that an occurrence can do. -/
theorem does_step (d : Dispatcher) (o : Occurrence) : Does d o (d.step o).1 (d.step o).2 := by
  cases o with
  | accepted peer => exact d.does_accept peer
  | command c => exact d.does_command c
  | report peer id r => exact d.does_report peer id r
  | attempted peer id result => exact d.does_attempted peer id result

variable {o : Occurrence}

theorem limit_does (h : Does d o d' deeds) :
    d'.limit = d.limit ∧ d'.reassembly.limit = d.reassembly.limit := by
  cases h with
  | reads | halts => exact ⟨rfl, Reassembly.limit_feed ..⟩
  | _ => exact ⟨rfl, rfl⟩

/-- At most one number is handed out. -/
theorem nextId_does (h : Does d o d' deeds) : d'.nextId ≤ d.nextId + 1 := by
  cases h with
  | accepts | starts => exact Nat.le_refl _
  | _ => exact Nat.le_succ _

/-! ### The tables -/

/-- How the tables fit together.  No peer has both a connection and an attempt; only connections
that are there are read no further, and only their peers have octets that wait. -/
structure Tidy (d : Dispatcher) : Prop where
  apart : ∀ p, d.connections.get? p ≠ none → d.connecting.get? p = none
  room : d.connections.size ≤ d.limit
  halted : ∀ id ∈ d.halted, ∃ p, d.connections.get? p = some id
  pending : ∀ p, d.connections.get? p = none → d.reassembly.pendingOf p = []

namespace Tidy

theorem init (maxConnection maxPackageSize : Nat) : (init maxConnection maxPackageSize).Tidy :=
  ⟨fun _ _ => rfl, Nat.zero_le _, nofun, fun _ _ => rfl⟩

section Steps

variable (h : d.Tidy)
include h

theorem no_connection (hid : d.connecting.get? peer = some id) :
    d.connections.get? peer = none := by
  by_contra hold
  rw [h.apart peer hold] at hid
  cases hid

/-- A peer without a connection gets one, and has no attempt then. -/
theorem connect (hnew : d.connections.get? peer = none) (hroom : d.connections.size < d.limit)
    (id : Nat) {connecting : Table PeerAddress Nat} (hidle : connecting.get? peer = none)
    (hconnecting : ∀ q, d.connecting.get? q = none → connecting.get? q = none) (nextId : Nat) :
    Tidy { d with connections := d.connections.insert peer id, connecting, nextId } where
  apart p hp := by
    by_cases hpeer : p = peer
    · exact hpeer ▸ hidle
    · rw [Table.get?_insert_of_ne _ _ hpeer] at hp
      exact hconnecting p (h.apart p hp)
  room := (Table.size_insert_le ..).trans hroom
  halted i hi := by
    obtain ⟨p, hp⟩ := h.halted i hi
    have hne : p ≠ peer := by
      rintro rfl
      rw [hnew] at hp
      cases hp
    exact ⟨p, (Table.get?_insert_of_ne _ _ hne).trans hp⟩
  pending p hp := by
    rw [Table.get?_insert] at hp
    split at hp
    · cases hp
    · exact h.pending p hp

/-- The connection of a peer is dropped, with all that is known of it. -/
theorem forget (peer : PeerAddress) {connecting : Table PeerAddress Nat}
    (hconnecting : ∀ q, d.connecting.get? q = none → connecting.get? q = none) :
    Tidy { d.forget peer with connecting } where
  apart p hp := by
    refine hconnecting p (h.apart p fun hnone => hp ?_)
    rw [Dispatcher.forget, Table.get?_erase, hnone, ite_self]
  room := (d.connections.sublist_erase peer).length_le.trans h.room
  halted i hi := by
    obtain ⟨hi, hne⟩ := List.mem_filter.mp hi
    obtain ⟨p, hp⟩ := h.halted i hi
    have hpeer : p ≠ peer := by
      rintro rfl
      exact of_decide_eq_true hne hp
    exact ⟨p, (Table.get?_erase_of_ne _ hpeer).trans hp⟩
  pending p hp := by
    rw [Dispatcher.forget, Reassembly.pendingOf_remove]
    split
    · rfl
    · rename_i hpeer
      rw [Dispatcher.forget, Table.get?_erase_of_ne _ hpeer] at hp
      exact h.pending p hp

/-- Octets of a connection are read, and it may be halted. -/
theorem read (hid : d.connections.get? peer = some id) (data : Octets) {halted : List Nat}
    (hhalted : halted ⊆ id :: d.halted) :
    Tidy { d with reassembly := (d.reassembly.feed peer data).next, halted } where
  apart := h.apart
  room := h.room
  halted i hi := by
    rcases List.mem_cons.mp (hhalted hi) with rfl | hi
    · exact ⟨peer, hid⟩
    · exact h.halted i hi
  pending p hp := by
    have hpeer : p ≠ peer := by
      rintro rfl
      rw [hid] at hp
      cases hp
    rw [Reassembly.pendingOf_feed_of_ne hpeer]
    exact h.pending p hp

theorem does (hdoes : Does d o d' deeds) : d'.Tidy := by
  have herase : ∀ (p q : PeerAddress), d.connecting.get? q = none →
      (d.connecting.erase p).get? q = none := by
    intro p q hq
    rw [Table.get?_erase, hq, ite_self]
  cases hdoes with
  | nothing => exact h
  | accepts hnew hidle hroom => exact h.connect hnew hroom _ hidle (fun _ hq => hq) _
  | @starts deeds peer hnew =>
    refine ⟨fun p hp => ?_, h.room, h.halted, h.pending⟩
    have hpeer : p ≠ peer := by
      rintro rfl
      exact hp hnew
    exact (Table.get?_insert_of_ne _ _ hpeer).trans (h.apart p hp)
  | closes => exact h.forget _ (herase _)
  | reads hid => exact h.read hid _ (List.subset_cons_self ..)
  | halts hid => exact h.read hid _ (List.Subset.refl _)
  | loses => exact h.forget _ fun _ hq => hq
  | fails => exact ⟨fun p hp => herase _ p (h.apart p hp), h.room, h.halted, h.pending⟩
  | connects hid hroom =>
    exact h.connect (h.no_connection hid) hroom _ (Table.get?_erase_self ..) (herase _) _

end Steps

end Tidy

/-! ### The numbers -/

/-- The numbers in a list were handed out below a bound, none of them twice. -/
structure HandedOut (bound : Nat) (ids : List (Nat × PeerAddress)) : Prop where
  once : (ids.map (·.1)).Nodup
  below : ∀ x ∈ ids, x.1 < bound

namespace HandedOut

variable {n m : Nat} {xs ys : List (Nat × PeerAddress)} {p q : PeerAddress}

theorem nil : HandedOut n [] :=
  ⟨List.nodup_nil, nofun⟩

section

variable (h : HandedOut n xs)
include h

theorem notMem : n ∉ xs.map (·.1) := by
  intro hmem
  obtain ⟨x, hx, hn⟩ := List.mem_map.mp hmem
  exact Nat.lt_irrefl n (hn ▸ h.below x hx)

theorem mono (hnm : n ≤ m) : HandedOut m xs :=
  ⟨h.once, fun x hx => (h.below x hx).trans_le hnm⟩

theorem subperm (hys : ys.Subperm xs) : HandedOut n ys := by
  obtain ⟨zs, hperm, hsub⟩ := hys
  exact ⟨(hperm.map _).nodup_iff.mp (h.once.sublist (hsub.map _)), fun x hx => h.below x
    (hsub.subset (hperm.mem_iff.mpr hx))⟩

theorem concat (hid : id < n) (hnew : id ∉ xs.map (·.1)) (p : PeerAddress) :
    HandedOut n (xs ++ [(id, p)]) := by
  refine ⟨?_, fun x hx => ?_⟩
  · rw [List.map_append, List.map_singleton, ← List.concat_eq_append]
    exact h.once.concat hnew
  · rcases List.mem_append.mp hx with hx | hx
    · exact h.below x hx
    · rw [List.mem_singleton.mp hx]
      exact hid

/-- The next number is handed out. -/
theorem next (p : PeerAddress) : HandedOut (n + 1) (xs ++ [(n, p)]) :=
  (h.mono n.le_succ).concat n.lt_succ_self h.notMem p

theorem unique (hp : (id, p) ∈ xs) (hq : (id, q) ∈ xs) : p = q :=
  congrArg Prod.snd (List.inj_on_of_nodup_map h.once hp hq rfl)

end

end HandedOut

/-- The numbers in the tables and the peers they stand for. -/
def holdings (d : Dispatcher) : List (Nat × PeerAddress) :=
  (d.connections.entries ++ d.connecting.entries).map Prod.swap

/-- How the numbers are handed out.  A number in the tables stands for one connection or attempt,
an attempt has not been registered yet, and a connection under the number of an attempt is that of
its peer. -/
structure Numbered (d : Dispatcher) (registered started : List (Nat × PeerAddress)) : Prop where
  held : HandedOut d.nextId d.holdings
  connected : HandedOut d.nextId registered
  tried : HandedOut d.nextId started
  waiting : ∀ p id, (p, id) ∈ d.connecting.entries →
    id ∉ registered.map (·.1) ∧ (id, p) ∈ started
  origin : ∀ id p q, (id, p) ∈ registered → (id, q) ∈ started → p = q

namespace Numbered

variable {registered started : List (Nat × PeerAddress)}

theorem init (maxConnection maxPackageSize : Nat) :
    (init maxConnection maxPackageSize).Numbered [] [] :=
  ⟨HandedOut.nil, HandedOut.nil, HandedOut.nil, nofun, nofun⟩

section Steps

variable (h : d.Numbered registered started)
include h

/-- Numbers may leave the tables. -/
theorem mono {connections connecting : Table PeerAddress Nat}
    (hconnections : connections.entries.Sublist d.connections.entries)
    (hconnecting : connecting.entries.Sublist d.connecting.entries)
    (halted : List Nat) (reassembly : Reassembly) :
    Numbered { d with connections, connecting, halted, reassembly } registered started where
  held := h.held.subperm ((hconnections.append hconnecting).map _).subperm
  connected := h.connected
  tried := h.tried
  waiting p id hp := h.waiting p id (hconnecting.subset hp)
  origin := h.origin

/-- A connection is registered under the next number. -/
theorem accept (peer : PeerAddress) :
    Numbered
      { d with connections := d.connections.insert peer d.nextId, nextId := d.nextId + 1 }
      (registered ++ [(d.nextId, peer)]) started where
  held := by
    have hsub := ((d.connections.sublist_erase peer).append
      (List.Sublist.refl d.connecting.entries)).map Prod.swap
    refine (h.held.next peer).subperm (List.Subperm.trans ?_ (hsub.append_right _).subperm)
    simp only [holdings, Table.insert, List.map_append, List.map_cons, List.map_nil,
      List.append_assoc]
    exact (List.Perm.append_left _ List.perm_append_comm).subperm
  connected := h.connected.next peer
  tried := h.tried.mono (Nat.le_succ _)
  waiting p id hp := by
    obtain ⟨hid, hstart⟩ := h.waiting p id hp
    refine ⟨?_, hstart⟩
    rw [List.map_append, List.mem_append, not_or]
    refine ⟨hid, fun hmem => h.tried.notMem ?_⟩
    obtain rfl : id = d.nextId := by simpa using hmem
    exact List.mem_map_of_mem hstart
  origin id p q hp hq := by
    rcases List.mem_append.mp hp with hp | hp
    · exact h.origin id p q hp hq
    · cases List.mem_singleton.mp hp
      exact absurd (List.mem_map_of_mem hq) h.tried.notMem

/-- An attempt is started under the next number. -/
theorem start (peer : PeerAddress) :
    Numbered
      { d with connecting := d.connecting.insert peer d.nextId, nextId := d.nextId + 1 }
      registered (started ++ [(d.nextId, peer)]) where
  held := by
    have hsub := ((List.Sublist.refl d.connections.entries).append
      (d.connecting.sublist_erase peer)).map Prod.swap
    refine (h.held.next peer).subperm (List.Subperm.trans ?_ (hsub.append_right _).subperm)
    simp only [holdings, Table.insert, List.map_append, List.map_cons, List.map_nil,
      List.append_assoc]
    exact List.Subperm.refl _
  connected := h.connected.mono (Nat.le_succ _)
  tried := h.tried.next peer
  waiting p id hp := by
    rcases List.mem_append.mp hp with hp | hp
    · obtain ⟨hid, hstart⟩ := h.waiting p id ((d.connecting.sublist_erase peer).subset hp)
      exact ⟨hid, List.mem_append_left _ hstart⟩
    · cases List.mem_singleton.mp hp
      exact ⟨h.connected.notMem, List.mem_append_right _ (List.mem_singleton_self _)⟩
  origin id p q hp hq := by
    rcases List.mem_append.mp hq with hq | hq
    · exact h.origin id p q hp hq
    · cases List.mem_singleton.mp hq
      exact absurd (List.mem_map_of_mem hp) h.connected.notMem

/-- A connection is registered under the number of its attempt. -/
theorem connect (hid : d.connecting.get? peer = some id) :
    Numbered
      { d with
        connecting := d.connecting.erase peer
        connections := d.connections.insert peer id }
      (registered ++ [(id, peer)]) started := by
  have hmem := Table.mem_entries_of_get? hid
  have hheld : ∀ {p i}, (p, i) ∈ d.connecting.entries → (i, p) ∈ d.holdings := fun hp =>
    List.mem_map_of_mem (f := Prod.swap) (List.mem_append_right _ hp)
  obtain ⟨hnew, hstart⟩ := h.waiting peer id hmem
  refine ⟨h.held.subperm ?_, h.connected.concat (h.held.below _ (hheld hmem)) hnew peer, h.tried,
    fun p i hp => ?_, fun i p q hp hq => ?_⟩
  · obtain ⟨entries, hperm, hsub⟩ :=
      (d.connections.sublist_erase peer).subperm.append (Table.subperm_of_get? hid)
    rw [holdings, Table.insert, List.append_assoc, List.singleton_append]
    exact ⟨_, hperm.map Prod.swap, hsub.map Prod.swap⟩
  · obtain ⟨hwas, hne⟩ := List.mem_filter.mp hp
    obtain ⟨hi, hstart⟩ := h.waiting p i hwas
    refine ⟨?_, hstart⟩
    rw [List.map_append, List.mem_append, not_or]
    refine ⟨hi, fun hsame => of_decide_eq_true hne ?_⟩
    obtain rfl : i = id := by simpa using hsame
    exact h.held.unique (hheld hwas) (hheld hmem)
  · rcases List.mem_append.mp hp with hp | hp
    · exact h.origin i p q hp hq
    · cases List.mem_singleton.mp hp
      exact h.tried.unique hstart hq

theorem does (hdoes : Does d o d' deeds) :
    d'.Numbered (registered ++ deeds.filterMap Deed.registration?)
      (started ++ deeds.filterMap Deed.start?) := by
  have hkeep := List.Sublist.refl d.connections.entries
  cases hdoes with
  | nothing hd => simpa only [hd.registered, hd.started, List.append_nil] using h
  | accepts _ _ _ hd =>
    simpa only [hd.registered, hd.started, List.append_nil] using h.accept _
  | starts _ hd => simpa only [hd.registered, hd.started, List.append_nil] using h.start _
  | closes hd =>
    simpa only [hd.registered, hd.started, List.append_nil, forget] using
      h.mono (d.connections.sublist_erase _) (d.connecting.sublist_erase _) _ _
  | reads _ _ hd | halts _ _ hd =>
    simpa only [hd.registered, hd.started, List.append_nil] using
      h.mono hkeep (List.Sublist.refl _) _ _
  | loses _ hd =>
    simpa only [hd.registered, hd.started, List.append_nil, forget] using
      h.mono (d.connections.sublist_erase _) (List.Sublist.refl _) _ _
  | fails _ hd =>
    simpa only [hd.registered, hd.started, List.append_nil] using
      h.mono hkeep (d.connecting.sublist_erase _) _ _
  | connects hid _ hd =>
    simpa only [hd.registered, hd.started, List.append_nil] using h.connect hid

end Steps

end Numbered

/-! ### A connection that is new -/

/-- A connection is registered for a peer that has none, while there is room. -/
theorem Tidy.registers (h : d.Tidy) (hdoes : Does d o d' deeds)
    (hreg : Deed.register id peer ∈ deeds) :
    d.connections.get? peer = none ∧ d.connections.size < d.limit ∧
      d'.connections.get? peer = some id ∧ ∀ q i r, o ≠ .report q i r := by
  have hmem : (id, peer) ∈ deeds.filterMap Deed.registration? :=
    List.mem_filterMap.mpr ⟨_, hreg, rfl⟩
  cases hdoes with
  | accepts hnew _ hroom hd =>
    rw [hd.registered] at hmem
    cases List.mem_singleton.mp hmem
    exact ⟨hnew, hroom, Table.get?_insert_self .., nofun⟩
  | connects hid hroom hd =>
    rw [hd.registered] at hmem
    cases List.mem_singleton.mp hmem
    exact ⟨h.no_connection hid, hroom, Table.get?_insert_self .., nofun⟩
  | nothing hd | starts _ hd | closes hd | reads _ _ hd | halts _ _ hd | loses _ hd | fails _ hd =>
    rw [hd.registered] at hmem
    cases hmem

/-- Nothing has been read from a connection, as long as it is the one of its peer. -/
def Unread (d : Dispatcher) (peer : PeerAddress) (id : Nat) : Prop :=
  d.connections.get? peer = some id → d.reassembly.pendingOf peer = []

theorem Unread.does (hu : d.Unread peer id) (h : d.Tidy) (hdoes : Does d o d' deeds)
    (ho : ∀ data, o ≠ .report peer id (.data data)) : d'.Unread peer id := by
  intro hid
  cases hdoes with
  | nothing | starts | fails => exact hu hid
  | accepts hnew =>
    rw [Table.get?_insert] at hid
    split at hid
    · rename_i hpeer
      exact h.pending _ (hpeer ▸ hnew)
    · exact hu hid
  | connects hattempt =>
    rw [Table.get?_insert] at hid
    split at hid
    · rename_i hpeer
      exact h.pending _ (hpeer ▸ h.no_connection hattempt)
    · exact hu hid
  | closes | loses =>
    rw [forget, Reassembly.pendingOf_remove, hu (Table.get?_of_erase hid), ite_self]
  | @reads _ q i data _ hcur | @halts _ q i data _ hcur =>
    have hpeer : peer ≠ q := by
      rintro rfl
      obtain rfl : id = i := Option.some.inj (hid.symm.trans hcur)
      exact ho data rfl
    rw [Reassembly.pendingOf_feed_of_ne hpeer]
    exact hu hid

/-! ### Any occurrences -/

/-- A dispatcher over any occurrences: what becomes of it, and all its deeds. -/
def run (maxConnection maxPackageSize : Nat) (os : List Occurrence) : Dispatcher × List Deed :=
  os.foldl (fun w o => ((w.1.step o).1, w.2 ++ (w.1.step o).2))
    (init maxConnection maxPackageSize, [])

section Run

variable {maxConnection maxPackageSize : Nat} {os : List Occurrence}

theorem run_concat (os : List Occurrence) (o : Occurrence) :
    run maxConnection maxPackageSize (os ++ [o]) =
      (((run maxConnection maxPackageSize os).1.step o).1,
        (run maxConnection maxPackageSize os).2 ++
          ((run maxConnection maxPackageSize os).1.step o).2) := by
  rw [run, List.foldl_append]
  rfl

theorem limit_run (os : List Occurrence) :
    (run maxConnection maxPackageSize os).1.limit = maxConnection ∧
      (run maxConnection maxPackageSize os).1.reassembly.limit = maxPackageSize := by
  induction os using List.reverseRecOn with
  | nil => exact ⟨rfl, rfl⟩
  | append_singleton os o ih =>
    rw [run_concat]
    obtain ⟨hlimit, hsize⟩ := limit_does (does_step _ o)
    exact ⟨hlimit.trans ih.1, hsize.trans ih.2⟩

/-- A run hands out at most one number for each occurrence: 64 bits hold the next one as long as
fewer than `2 ^ 64 - 1` things have happened. -/
theorem nextId_run_le (os : List Occurrence) :
    (run maxConnection maxPackageSize os).1.nextId ≤ os.length + 1 := by
  induction os using List.reverseRecOn with
  | nil => exact Nat.le_refl _
  | append_singleton os o ih =>
    rw [run_concat, List.length_append, List.length_singleton]
    exact (nextId_does (does_step _ o)).trans (Nat.succ_le_succ ih)

theorem tidy_run (os : List Occurrence) : (run maxConnection maxPackageSize os).1.Tidy := by
  induction os using List.reverseRecOn with
  | nil => exact .init _ _
  | append_singleton os o ih =>
    rw [run_concat]
    exact ih.does (does_step _ o)

theorem numbered_run (os : List Occurrence) :
    (run maxConnection maxPackageSize os).1.Numbered
      ((run maxConnection maxPackageSize os).2.filterMap Deed.registration?)
      ((run maxConnection maxPackageSize os).2.filterMap Deed.start?) := by
  induction os using List.reverseRecOn with
  | nil => exact .init _ _
  | append_singleton os o ih =>
    rw [run_concat, List.filterMap_append, List.filterMap_append]
    exact ih.does (does_step _ o)

/-- A connection that is registered stays unread until it reports octets. -/
theorem unread_run (o : Occurrence) (between : List Occurrence)
    (hreg : Deed.register id peer ∈ ((run maxConnection maxPackageSize os).1.step o).2)
    (hbetween : ∀ data, .report peer id (.data data) ∉ between) :
    (run maxConnection maxPackageSize (os ++ o :: between)).1.Unread peer id := by
  induction between using List.reverseRecOn with
  | nil =>
    rw [run_concat]
    obtain ⟨hnew, -, -, ho⟩ := (tidy_run os).registers (does_step _ o) hreg
    have hu : (run maxConnection maxPackageSize os).1.Unread peer id :=
      fun hid => absurd (hnew.symm.trans hid) nofun
    exact hu.does (tidy_run os) (does_step _ o) fun data => ho _ _ _
  | append_singleton between o' ih =>
    rw [← List.cons_append, ← List.append_assoc, run_concat]
    simp only [List.mem_append, List.mem_singleton, not_or] at hbetween
    exact (ih fun data => (hbetween data).1).does (tidy_run _) (does_step _ o')
      fun data => Ne.symm (hbetween data).2

end Run

/-- **The tables fit together after any occurrences**, in whatever order they come, those of
connections that were dropped and of attempts that were given up included. -/
theorem tables_consistent (maxConnection maxPackageSize : Nat) (os : List Occurrence) :
    let d := (run maxConnection maxPackageSize os).1
    let deeds := (run maxConnection maxPackageSize os).2
    (∀ p, ¬(d.connections.contains p = true ∧ d.connecting.contains p = true)) ∧
      ((d.connections.entries ++ d.connecting.entries).map (·.2)).Nodup ∧
      (deeds.filterMap Deed.registered?).Nodup ∧ (deeds.filterMap Deed.attempt?).Nodup ∧
      (∀ id p q, .register id p ∈ deeds → .attempt id q ∈ deeds → p = q) ∧
      d.connections.size ≤ maxConnection ∧
      (∀ o p id, .register id p ∈ (d.step o).2 → d.connections.contains p = false) ∧
      (∀ id ∈ d.halted, ∃ p, d.connections.get? p = some id) ∧
      (∀ p, d.reassembly.pendingOf p ≠ [] → d.connections.contains p = true) ∧
      ∀ o between later p id, .register id p ∈ (d.step o).2 →
        (∀ data, .report p id (.data data) ∉ between) →
        later = (run maxConnection maxPackageSize (os ++ o :: between)).1 →
        later.connections.get? p = some id →
        ∀ data, (later.reassembly.feed p data).result =
          ((Reassembly.init maxPackageSize).feed p data).result := by
  intro d deeds
  have htidy : d.Tidy := tidy_run os
  have hnumbered : d.Numbered (deeds.filterMap Deed.registration?)
      (deeds.filterMap Deed.start?) := numbered_run os
  have hregistered : deeds.filterMap Deed.registered? =
      (deeds.filterMap Deed.registration?).map (·.1) := by
    rw [List.map_filterMap]
    exact List.filterMap_congr fun deed _ => by cases deed <;> rfl
  have hattempted : deeds.filterMap Deed.attempt? =
      (deeds.filterMap Deed.start?).map (·.1) := by
    rw [List.map_filterMap]
    exact List.filterMap_congr fun deed _ => by cases deed <;> rfl
  refine ⟨fun p ⟨hp, hq⟩ => ?_, ?_, ?_, ?_, fun id p q hp hq => ?_, ?_, fun o p id hreg => ?_,
    htidy.halted, fun p hp => ?_, fun o between later p id hreg hbetween hlater hcur data => ?_⟩
  · rw [Table.contains, htidy.no_connection (Option.eq_some_of_isSome hq)] at hp
    cases hp
  · simpa only [holdings, List.map_map, Function.comp_def, Prod.fst_swap] using hnumbered.held.once
  · exact hregistered ▸ hnumbered.connected.once
  · exact hattempted ▸ hnumbered.tried.once
  · exact hnumbered.origin id p q (List.mem_filterMap.mpr ⟨_, hp, rfl⟩)
      (List.mem_filterMap.mpr ⟨_, hq, rfl⟩)
  · exact htidy.room.trans_eq (limit_run os).1
  · rw [Table.contains, (htidy.registers (does_step d o) hreg).1, Option.isSome_none]
  · by_contra hnone
    rw [Table.contains, Bool.not_eq_true, Option.isSome_eq_false_iff,
      Option.isNone_iff_eq_none] at hnone
    exact hp (htidy.pending p hnone)
  · subst hlater
    have hlimit : (run maxConnection maxPackageSize (os ++ o :: between)).1.reassembly.limit =
        (Reassembly.init maxPackageSize).limit := (limit_run _).2
    exact (Reassembly.feed_congr hlimit (unread_run o between hreg hbetween hcur) data).1

/-- A peer replaces its attempt, leaves a message unfinished and connects anew: the octets that its
earlier connection left are gone, and one that it reports late is not heard. -/
theorem tables_consistent_reconnect :
    let peer : PeerAddress := .v4 ⟨10, 0, 0, 1⟩ 4189
    let os : List Occurrence := [.command (.connect peer), .command (.connect peer),
      .attempted peer 1 (.ok ()), .attempted peer 2 (.ok ()), .report peer 2 (.data [32, 1, 0])]
    let lost : List Occurrence := os ++ [.report peer 2 (.lost .endOfStream)]
    let late : List Occurrence := [.report peer 2 (.data [32])]
    (run 1 64 os).1.reassembly.pendingOf peer = [32, 1, 0] ∧
      .register 3 peer ∈ ((run 1 64 lost).1.step (.accepted peer)).2 ∧
      (run 1 64 (lost ++ .accepted peer :: late)).1.connections.get? peer = some 3 ∧
      ∀ data, ((run 1 64 (lost ++ .accepted peer :: late)).1.reassembly.feed peer data).result =
        ((Reassembly.init 64).feed peer data).result := by
  intro peer os lost late
  obtain ⟨-, -, -, -, -, -, -, -, -, hfresh⟩ := tables_consistent 1 64 lost
  have hreg : Deed.register 3 peer ∈ ((run 1 64 lost).1.step (.accepted peer)).2 := by
    decide +kernel
  have hcur : (run 1 64 (lost ++ .accepted peer :: late)).1.connections.get? peer = some 3 := by
    decide +kernel
  exact ⟨by decide +kernel, hreg, hcur, hfresh _ _ _ peer 3 hreg (by simp [late]) rfl hcur⟩

end Dispatcher

end PathSession
