import PathSession.Proofs.Wire.Content
import PathSession.Proofs.Wire.Splitting

/-!
# What a session builds, its peer reads back

An object is written under a header of its own, the objects of a body one behind the other, and the
body under the common header.  Reading undoes all of that, however the octets are cut on their way.

* `Reassembly.feedAll_encode`: a message that fits comes out of its octets, once and alone;
* `EstablishmentError.value_inj`, `ErrorObject.is_establishment_iff`: failures are told apart by
  their value;
* `Message.ReadsBack`: a message that is sent is received with a given content;
* `Message.built_read_back`: so are all messages that a session builds.
-/

namespace PathSession

/-- However a message is cut into reads, they give it back and nothing else, and leave nothing. -/
theorem Reassembly.feedAll_encode {r : Reassembly} {p : PeerAddress} {m : Message}
    (hm : m.Fits r.limit) (hp : r.pendingOf p = []) {reads : List Octets}
    (hreads : reads.flatten = m.encode) :
    r.feedAll p reads = { messages := [m], lost := [], error := none, pending := [] } := by
  have hwaits : Frame.check r.limit (r.pendingOf p) = .incomplete := by
    rw [hp]
    rfl
  have hwhole : Frame.parseAll r.limit (r.pendingOf p ++ reads.flatten) =
      { messages := [m], error := none, rest := [] } := by
    have hparse : Frame.parse r.limit m.encode = .ok (some (m, [])) := by
      have h := Frame.parse_encode hm []
      rwa [List.append_nil] at h
    rw [hp, hreads, List.nil_append, Frame.parseAll_of_some hparse, Frame.parseAll_of_none rfl]
    rfl
  obtain ⟨hmessages, herror, hlost, hpending⟩ := haul_feedAll hwaits reads
  rw [hwhole] at hmessages herror hpending
  generalize r.feedAll p reads = haul at hmessages herror hlost hpending ⊢
  obtain ⟨messages, lost, error, pending⟩ := haul
  obtain rfl : error = none := herror
  obtain rfl : lost = [] := hlost rfl
  obtain rfl : pending = [] := hpending
  rw [show messages = [m] from (List.append_nil messages).symm.trans hmessages]

/-! ### Failures by their value -/

theorem EstablishmentError.value_inj {x y : EstablishmentError} : x.value = y.value ↔ x = y := by
  constructor
  · intro h
    cases x <;> cases y <;> first | rfl | cases h
  · exact congrArg value

/-- The object that reports a failure reports that one only. -/
theorem ErrorObject.is_establishment_iff {x y : EstablishmentError} :
    (establishment y).is x = true ↔ x = y := by
  simp only [is, establishment, beq_self_eq_true, Bool.true_and, beq_iff_eq]
  exact EstablishmentError.value_inj.trans eq_comm

/-! ### The theorem -/

namespace Message

/-- Sent to a peer and read there in pieces of any size, a message comes out once and alone, nothing
is left over, and its content is the given one. -/
def ReadsBack (r : Reassembly) (p : PeerAddress) (m : Message) (c : Content) : Prop :=
  ∀ reads : List Octets, reads.flatten = m.encode →
    ∃ received, r.feedAll p reads =
        { messages := [received], lost := [], error := none, pending := [] } ∧
      received.content = .ok c

theorem Fits.readsBack {r : Reassembly} {p : PeerAddress} {m : Message} {c : Content}
    (hm : m.Fits r.limit) (hp : r.pendingOf p = []) (hc : m.content = .ok c) :
    m.ReadsBack r p c := fun _ hreads => ⟨m, Reassembly.feedAll_encode hm hp hreads, hc⟩

/-- **What a session builds, its peer reads back.**  Where messages of twenty octets are let through
and nothing of the peer is pending, an OPEN is received with the object it was built from, whatever
its flags and values, an ERROR with its error and the proposal attached to it, whatever version that
proposal has, and a CLOSE with its cause; and the error of a failed establishment is told from all
others. -/
theorem built_read_back {r : Reassembly} (hl : 20 ≤ r.limit) {p : PeerAddress}
    (hp : r.pendingOf p = []) :
    (∀ o : OpenObject, o.version = protocolVersion → o.flags.toNat < 32 →
        o.message.ReadsBack r p (.opening o)) ∧
      (∀ (e : ErrorObject) (proposal : Option OpenObject),
        (∀ o ∈ proposal, o.version.toNat < 8 ∧ o.flags.toNat < 32) →
          (e.message proposal).ReadsBack r p (.error e proposal)) ∧
      (∀ c : CloseCause, c.message.ReadsBack r p (.close { flags := 0, reason := c.value })) ∧
      ∀ x y, (ErrorObject.establishment y).is x = true ↔ x = y := by
  refine ⟨fun o hv hf => ?_, fun e proposal ho => ?_, fun c => ?_, fun x y => ?_⟩
  · exact (fits_propose hl o).readsBack hp (OpenObject.content_message hv hf)
  · exact (fits_error hl e proposal).readsBack hp (ErrorObject.content_message e proposal ho)
  · exact (fits_closeCause hl c).readsBack hp c.content_message
  · exact ErrorObject.is_establishment_iff

/-- The largest message that a session builds, where nothing larger is let through: it is cut inside
its header and inside that of the proposal, whose version and flags have every bit set, while octets
of another peer are pending. -/
theorem built_read_back_counter :
    let p := PeerAddress.v4 ⟨10, 0, 0, 1⟩ 4189
    let r := ((Reassembly.init 20).feed (.v4 ⟨10, 0, 0, 2⟩ 4189) [0x20, 1]).next
    let e := ErrorObject.establishment .negotiable
    let o : OpenObject :=
      { version := 7, flags := 31, keepalive := 40, deadTimer := 160, sessionId := 9 }
    let reads : List Octets :=
      [[0x20, 6, 0], [], [20, 13, 16, 0, 8, 0, 0, 1, 4, 1], [16, 0, 8, 0xff, 40, 160, 9]]
    20 ≤ r.limit ∧ r.pendingOf p = [] ∧ o.version.toNat < 8 ∧ o.flags.toNat < 32 ∧
      reads.flatten = (e.message (some o)).encode ∧
      (∃ received, r.feedAll p reads =
          { messages := [received], lost := [], error := none, pending := [] } ∧
        received.content = .ok (.error e (some o))) ∧
      e.is .negotiable = true := by
  intro p r e o reads
  have hl : 20 ≤ r.limit := by decide +kernel
  have hp : r.pendingOf p = [] := by decide +kernel
  have ho : ∀ o' ∈ some o, o'.version.toNat < 8 ∧ o'.flags.toNat < 32 := by
    rintro o' ⟨⟩
    decide
  have hreads : reads.flatten = (e.message (some o)).encode := by decide +kernel
  obtain ⟨-, herror, -, his⟩ := built_read_back hl hp
  exact ⟨hl, hp, (ho o rfl).1, (ho o rfl).2, hreads, herror e (some o) ho reads hreads,
    (his _ _).mpr rfl⟩

end Message

end PathSession
