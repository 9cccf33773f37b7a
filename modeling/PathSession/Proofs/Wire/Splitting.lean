import PathSession.Proofs.Wire.Reassembly
import PathSession.Wire.Object

/-!
# How a stream is cut into reads

The octets of a peer come in reads of any size.  Whether the stream can be framed, and which
messages are complete in it, does not depend on where it is cut.  A read that runs into a framing
error gives back nothing, so the messages it completes in front of the error are lost, and which
these are does depend on the cut.

* `Frame.parseAll_append`, `Frame.parseAll_append_of_error`: parsing a stream that goes on;
* `Reassembly.Haul`, `Reassembly.feedAll`: what the reads of a stream give until one fails;
* `Reassembly.Haul.Of`, `Reassembly.haul_feedAll`: the messages given back and those lost are the
  messages of the stream;
* `Reassembly.lost_of_octets`: octet by octet nothing is lost;
* `Reassembly.feedAll_cuttings`: two cuttings of one stream.
-/

namespace PathSession

theorem Header.read?_append {bs : Octets} {h : Header} (hr : read? bs = some h) (more : Octets) :
    read? (bs ++ more) = some h := by
  match bs, hr with
  | _ :: _ :: _ :: _ :: _, hr => exact hr

namespace Frame

variable {limit : Nat} {s : Octets}

/-! ### Parsing a stream that goes on -/

/-- A length that can never be satisfied is seen as soon as the header is there. -/
theorem check_append_of_broken {e : FrameError} (h : check limit s = .broken e) (t : Octets) :
    check limit (s ++ t) = .broken e := by
  unfold check at h
  split at h
  · cases h
  · rename_i hd hr
    simp only [check, Header.read?_append hr t]
    split at h
    · rename_i h4
      rw [if_pos h4]
      exact h
    · rename_i h4
      split at h
      · rename_i hl
        rw [if_neg h4, if_pos hl]
        exact h
      · split at h <;> cases h

theorem parse_append_of_error {e : FrameError} (h : parse limit s = .error e) (t : Octets) :
    parse limit (s ++ t) = .error e := by
  have hc : check limit s = .broken e := by
    unfold parse at h
    split at h
    · cases h
    · cases h
      assumption
    · cases h
  simp only [parse, check_append_of_broken hc t]

/-- A message that is all there stays what it is. -/
theorem parse_append_of_some {m : Message} {rest : Octets}
    (h : parse limit s = .ok (some (m, rest))) (t : Octets) :
    parse limit (s ++ t) = .ok (some (m, rest ++ t)) := by
  obtain ⟨rfl, hm⟩ := encode_of_parse h
  rw [List.append_assoc]
  exact parse_encode hm _

/-- After a framing error nothing more is taken. -/
theorem parseAll_append_of_error {e : FrameError} (h : (parseAll limit s).error = some e)
    (t : Octets) :
    parseAll limit (s ++ t) = { parseAll limit s with rest := (parseAll limit s).rest ++ t } := by
  fun_induction parseAll limit s with
  | case1 s e' hp => exact parseAll_of_error (parse_append_of_error hp t)
  | case2 s hp => cases h
  | case3 s m rest hp hlt ih =>
    rw [parseAll_of_some (parse_append_of_some hp t), ih h]
    rfl

/-- Without an error, parsing goes on where it stopped. -/
theorem parseAll_append (h : (parseAll limit s).error = none) (t : Octets) :
    parseAll limit (s ++ t) =
      { parseAll limit ((parseAll limit s).rest ++ t) with
        messages := (parseAll limit s).messages
          ++ (parseAll limit ((parseAll limit s).rest ++ t)).messages } := by
  fun_induction parseAll limit s with
  | case1 s e hp => cases h
  | case2 s hp => rfl
  | case3 s m rest hp hlt ih =>
    rw [parseAll_of_some (parse_append_of_some hp t), ih h]
    rfl

/-- One more octet completes at most one message, and none in front of an error. -/
theorem messages_of_octet (h : check limit s = .incomplete) (b : UInt8) {e : FrameError}
    (he : (parseAll limit (s ++ [b])).error = some e) :
    (parseAll limit (s ++ [b])).messages = [] := by
  cases hp : parse limit (s ++ [b]) with
  | error e' => rw [parseAll_of_error hp]
  | ok found =>
    cases found with
    | none => rw [parseAll_of_none hp]
    | some found =>
      -- the message ends with the octet, so that nothing is left to be broken
      obtain ⟨m, rest⟩ := found
      obtain ⟨hs, hm⟩ := encode_of_parse hp
      rcases List.eq_nil_or_concat rest with rfl | ⟨rest, b', rfl⟩
      · rw [parseAll_of_some hp, parseAll_of_none rfl] at he
        cases he
      · -- otherwise it was complete before
        rw [List.concat_eq_append, ← List.append_assoc] at hs
        obtain ⟨rfl, -⟩ := List.append_inj' hs rfl
        have hnone := parse_of_incomplete h
        rw [parse_encode hm] at hnone
        cases hnone

end Frame

namespace Reassembly

/-! ### The reads of a stream -/

/-- What the reads of a peer's stream give until one fails. -/
structure Haul where
  /-- given back before the first framing error -/
  messages : List Message
  /-- complete in the read that failed, in front of the error -/
  lost : List Message
  error : Option FrameError
  /-- what is pending in the end -/
  pending : Octets
  deriving DecidableEq, Repr

/-- Put the messages of an earlier read in front. -/
def Haul.behind (messages : List Message) (h : Haul) : Haul :=
  { h with messages := messages ++ h.messages }

/-- Feed the reads of a peer's stream one after the other, until one fails. -/
def feedAll (r : Reassembly) (p : PeerAddress) : List Octets → Haul
  | [] => { messages := [], lost := [], error := none, pending := r.pendingOf p }
  | read :: more =>
    let fed := r.feed p read
    match fed.result with
    | .ok messages => (fed.next.feedAll p more).behind messages
    | .error e =>
      { messages := []
        lost := (Frame.parseAll r.limit (r.pendingOf p ++ read)).messages
        error := some e
        pending := fed.next.pendingOf p }

variable {r : Reassembly} {p : PeerAddress}

/-- The haul of a stream that was parsed as a whole: its messages are given back or lost, and none
is lost unless framing fails. -/
structure Haul.Of (whole : Frame.Parsed) (h : Haul) : Prop where
  messages : h.messages ++ h.lost = whole.messages
  error : h.error = whole.error
  lost : h.error = none → h.lost = []
  pending : h.pending = if h.error = none then whole.rest else []

/-- Wherever a stream is cut, its haul is that of the whole. -/
theorem haul_feedAll (hwaits : Frame.check r.limit (r.pendingOf p) = .incomplete)
    (reads : List Octets) :
    (r.feedAll p reads).Of (Frame.parseAll r.limit (r.pendingOf p ++ reads.flatten)) := by
  induction reads generalizing r with
  | nil =>
    rw [List.flatten_nil, List.append_nil,
      Frame.parseAll_of_none (Frame.parse_of_incomplete hwaits)]
    exact ⟨rfl, rfl, fun _ => rfl, rfl⟩
  | cons read more ih =>
    rw [List.flatten_cons, ← List.append_assoc]
    rcases feed_cases r p read with ⟨rfl, hfed⟩ | ⟨e, he, hfed⟩ | ⟨he, hfed⟩
    · simp only [feedAll, hfed, List.append_nil]
      exact ih hwaits
    · rw [Frame.parseAll_append_of_error he]
      simp only [feedAll, hfed]
      exact ⟨rfl, he.symm, nofun, by rw [pendingOf_remove, if_pos rfl]; rfl⟩
    · -- what is kept is where parsing goes on
      rw [Frame.parseAll_append he]
      have hrest : (r.keep p (Frame.parseAll r.limit (r.pendingOf p ++ read)).rest).pendingOf p
          = (Frame.parseAll r.limit (r.pendingOf p ++ read)).rest := by
        rw [pendingOf_keep, if_pos rfl]
      obtain ⟨hmessages, herror, hlost, hpending⟩ :=
        ih (r := r.keep p (Frame.parseAll r.limit (r.pendingOf p ++ read)).rest) (by
          rw [hrest, limit_keep]
          exact Frame.check_rest_parseAll he)
      rw [hrest, limit_keep] at hmessages herror hpending
      simp only [feedAll, hfed]
      refine ⟨?_, herror, hlost, hpending⟩
      rw [← hmessages, Haul.behind, List.append_assoc]

/-- Octet by octet nothing is lost, whether the stream can be framed or not. -/
theorem lost_of_octets (hwaits : Frame.check r.limit (r.pendingOf p) = .incomplete)
    {reads : List Octets} (hread : ∀ read ∈ reads, read.length ≤ 1) :
    (r.feedAll p reads).lost = [] := by
  induction reads generalizing r with
  | nil => rfl
  | cons read more ih =>
    obtain ⟨hone, hmore⟩ := List.forall_mem_cons.mp hread
    rcases feed_cases r p read with ⟨rfl, hfed⟩ | ⟨e, he, hfed⟩ | ⟨he, hfed⟩
    · simp only [feedAll, hfed]
      exact ih hwaits hmore
    · simp only [feedAll, hfed]
      match read, hone with
      | [], _ =>
        rw [List.append_nil, Frame.parseAll_of_none (Frame.parse_of_incomplete hwaits)]
      | [b], _ => exact Frame.messages_of_octet hwaits b he
    · simp only [feedAll, hfed]
      refine ih ?_ hmore
      rw [pendingOf_keep, if_pos rfl, limit_keep]
      exact Frame.check_rest_parseAll he

/-- **Two cuttings of one stream.**  Framing fails in both or in neither, with the same error, and
the messages given back and those lost are together the same.  Without an error nothing is lost, so
the same messages are given back and the same octets are pending.  With one, what is lost is what
the failing read completes in front of it; if all octets come one by one, it is nothing. -/
theorem feedAll_cuttings (limit : Nat) (p : PeerAddress) {reads reads' : List Octets}
    (h : reads.flatten = reads'.flatten) :
    let haul := (init limit).feedAll p reads
    let haul' := (init limit).feedAll p reads'
    haul.error = haul'.error ∧
      haul.messages ++ haul.lost = haul'.messages ++ haul'.lost ∧
      haul.pending = haul'.pending ∧
      (haul.error = none → haul.messages = haul'.messages) ∧
      ((∀ read ∈ reads', read.length ≤ 1) → haul'.messages = haul.messages ++ haul.lost) := by
  intro haul haul'
  obtain ⟨hmessages, herror, hlost, hpending⟩ : haul.Of _ :=
    haul_feedAll (r := init limit) (p := p) rfl reads
  obtain ⟨hmessages', herror', hlost', hpending'⟩ : haul'.Of _ :=
    haul_feedAll (r := init limit) (p := p) rfl reads'
  rw [h] at hmessages herror hpending
  have hall : haul.messages ++ haul.lost = haul'.messages ++ haul'.lost :=
    hmessages.trans hmessages'.symm
  have herr : haul.error = haul'.error := herror.trans herror'.symm
  refine ⟨herr, hall, by rw [hpending, hpending', herr], fun hnone => ?_, fun hread => ?_⟩
  · rw [hlost hnone, hlost' (herr ▸ hnone), List.append_nil, List.append_nil] at hall
    exact hall
  · have hnothing : haul'.lost = [] := lost_of_octets (r := init limit) rfl hread
    rw [hnothing, List.append_nil] at hall
    exact hall.symm

/-- A KEEPALIVE in front of a header whose length is 0: it is given back if the two come in reads of
their own, and lost if they share one. -/
theorem feedAll_cuttings_shared :
    let p := PeerAddress.v4 ⟨10, 0, 0, 1⟩ 4189
    let apart := (init Message.maxSize).feedAll p [[0x20, 2, 0, 4], [0x20, 2, 0, 0]]
    let shared := (init Message.maxSize).feedAll p [[0x20, 2, 0, 4, 0x20, 2, 0, 0]]
    apart.messages = [keepaliveMessage] ∧ shared.messages = [] ∧
      apart.error = shared.error ∧ apart.error = some (.belowHeader 0) ∧
      apart.messages ++ apart.lost = shared.messages ++ shared.lost := by
  intro p apart shared
  have hstream : ([[0x20, 2, 0, 4], [0x20, 2, 0, 0]] : List Octets).flatten =
      [[0x20, 2, 0, 4, 0x20, 2, 0, 0]].flatten := by decide
  obtain ⟨herror, hall, -⟩ := feedAll_cuttings Message.maxSize p hstream
  refine ⟨?_, ?_, herror, ?_, hall⟩
  · decide +kernel
  · decide +kernel
  · decide +kernel

end Reassembly

end PathSession
