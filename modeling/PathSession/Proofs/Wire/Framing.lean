import PathSession.Wire.Frame

/-!
# Framing is exact

What is cut off the front of a stream is a message whose encoding was there, and every message
that fits is cut off again.

* `Message.Fits`: the messages that can be told apart on a wire with the given limit;
* `Frame.check_encode`: what the check of a frame says about a message, under any limit;
* `Frame.parse_encode`, `Frame.encode_of_parse`: one message, both directions;
* `Frame.cut`: the same for the buffer in place, `Frame.cut_inverse`;
* `Frame.parseAll_conserves`: nothing is lost or invented in front of the rest;
* `Frame.parseAll_of_encoded`: any piece of an encoded stream gives the messages it completes.
-/

namespace PathSession

namespace Octets

theorem upper3_packed {version flags : UInt8} (hv : version.toNat < 8) :
    upper3 (packed version flags) = version := by
  apply UInt8.toNat_inj.mp
  simp only [upper3, packed, UInt8.toNat_div, UInt8.toNat_ofNat']
  have : flags.toNat % 32 < 32 := Nat.mod_lt _ (by decide)
  simp
  omega

theorem lower5_packed {version flags : UInt8} (hf : flags.toNat < 32) :
    lower5 (packed version flags) = flags := by
  apply UInt8.toNat_inj.mp
  simp only [lower5, packed, UInt8.toNat_mod, UInt8.toNat_ofNat']
  simp
  omega

theorem packed_upper3_lower5 (b : UInt8) : packed (upper3 b) (lower5 b) = b := by
  apply UInt8.toNat_inj.mp
  have := b.toNat_lt
  simp only [upper3, lower5, packed, UInt8.toNat_div, UInt8.toNat_mod, UInt8.toNat_ofNat']
  simp
  omega

theorem upper3_lt (b : UInt8) : (upper3 b).toNat < 8 := by
  have := b.toNat_lt
  simp only [upper3, UInt8.toNat_div]
  simp
  omega

theorem lower5_lt (b : UInt8) : (lower5 b).toNat < 32 := by
  simp only [lower5, UInt8.toNat_mod]
  simp
  omega

end Octets

namespace Header

theorem read?_octets {h : Header} (hv : h.version.toNat < 8) (hf : h.flags.toNat < 32)
    (rest : Octets) : read? (h.octets ++ rest) = some h := by
  obtain ⟨version, flags, code, length⟩ := h
  simp only [octets, Octets.ofWord, List.cons_append, List.nil_append, read?]
  rw [Octets.upper3_packed hv, Octets.lower5_packed hf, Octets.toWord_ofWord]

theorem octets_of_read? {bs : Octets} {h : Header} (hr : read? bs = some h) :
    bs = h.octets ++ bs.drop size ∧ h.version.toNat < 8 ∧ h.flags.toNat < 32 := by
  unfold read? at hr
  split at hr
  · rename_i b c hi lo rest
    cases hr
    refine ⟨?_, Octets.upper3_lt b, Octets.lower5_lt b⟩
    simp only [octets, Octets.packed_upper3_lower5, Octets.ofWord_toWord, size, List.drop_succ_cons,
      List.drop_zero, List.cons_append, List.nil_append]
  · cases hr

theorem read?_eq_none {bs : Octets} (h : bs.length < size) : read? bs = none := by
  unfold read?
  split
  · simp only [List.length_cons, size] at h
    omega
  · rfl

theorem length_lt_of_read?_eq_none {bs : Octets} (h : read? bs = none) : bs.length < size := by
  match bs, h with
  | [], _ | [_], _ | [_, _], _ | [_, _, _], _ => simp [size]
  | _ :: _ :: _ :: _ :: _, h => cases h

end Header

namespace Message

/-- The header can carry the fields, and the size is within the limit and the length field. -/
structure Fits (limit : Nat) (m : Message) : Prop where
  version_lt : m.version.toNat < 8
  flags_lt : m.flags.toNat < 32
  size_le : m.size ≤ limit
  size_le_maxSize : m.size ≤ maxSize

variable {limit : Nat} {m : Message}

theorem Fits.length_header (h : m.Fits limit) : m.header.length.toNat = m.size := by
  have := h.size_le_maxSize
  simp only [header, UInt16.toNat_ofNat', maxSize] at *
  omega

theorem size_pos (m : Message) : Header.size ≤ m.size := Nat.le_add_right _ _

theorem header_ofParts {h : Header} {body : Octets}
    (hl : h.length.toNat = Header.size + body.length) : (ofParts h body).header = h := by
  obtain ⟨version, flags, code, length⟩ := h
  have : UInt16.ofNat (Header.size + body.length) = length := by
    rw [← hl]
    exact UInt16.ofNat_toNat
  simp only [header, ofParts, size, this]

/-- An outgoing message of a size the length field can describe fits. -/
theorem fits_make {kind : MessageKind} {body : Octets}
    (hl : Header.size + body.length ≤ limit) (hm : Header.size + body.length ≤ maxSize) :
    (make kind body).Fits limit where
  version_lt := show protocolVersion.toNat < 8 by decide
  flags_lt := show (0 : UInt8).toNat < 32 by decide
  size_le := hl
  size_le_maxSize := hm

theorem make_of_make? {kind : MessageKind} {body : Octets} (h : make? kind body = .ok m) :
    make kind body = m := by
  unfold make? at h
  split at h
  · cases h
  · exact Except.ok.inj h

theorem fits_of_make? {kind : MessageKind} {body : Octets} (h : make? kind body = .ok m) :
    m.Fits maxSize := by
  unfold make? at h
  split at h
  · cases h
  · cases h
    exact fits_make (by omega) (by omega)

theorem drop_encode (m : Message) (rest : Octets) : (m.encode ++ rest).drop m.size = rest := by
  rw [← length_encode, List.drop_left]

theorem body_encode (m : Message) (rest : Octets) :
    ((m.encode ++ rest).take m.size).drop Header.size = m.body := by
  rw [← length_encode, List.take_left, encode, ← Header.length_octets m.header, List.drop_left]

end Message

namespace Frame

variable {limit : Nat}

theorem length_lt_of_incomplete {stream : Octets} (h : check limit stream = .incomplete) :
    stream.length < max Header.size limit := by
  unfold check at h
  split at h
  · rename_i hr
    exact Nat.lt_of_lt_of_le (Header.length_lt_of_read?_eq_none hr) (Nat.le_max_left _ _)
  · rename_i hd hr
    split at h
    · cases h
    · split at h
      · cases h
      · split at h
        · rename_i h4 hlim ht
          rw [List.length_take] at ht
          omega
        · cases h

/-- Of a message with a valid header, the front tells the size, and whether it is over the limit. -/
theorem check_encode {m : Message} (hm : m.Fits Message.maxSize) (limit : Nat) (rest : Octets) :
    check limit (m.encode ++ rest) =
      if limit < m.size then .broken (.tooLarge m.size) else .complete m.header := by
  have hr : Header.read? (m.encode ++ rest) = some m.header := by
    rw [Message.encode, List.append_assoc]
    exact Header.read?_octets hm.version_lt hm.flags_lt _
  have hsize := m.size_pos
  simp only [check, hr, hm.length_header]
  rw [if_neg (by omega)]
  congr 1
  exact if_neg (by simp)

/-- The front of an encoded message is that message as soon as all of it is there. -/
theorem parse_encode {m : Message} (hm : m.Fits limit) (rest : Octets) :
    parse limit (m.encode ++ rest) = .ok (some (m, rest)) := by
  have hc : check limit (m.encode ++ rest) = .complete m.header := by
    rw [check_encode ⟨hm.version_lt, hm.flags_lt, hm.size_le_maxSize, hm.size_le_maxSize⟩,
      if_neg (Nat.not_lt.mpr hm.size_le)]
  simp only [parse, hc, hm.length_header, m.body_encode, m.drop_encode]
  rfl

/-- A message that is cut off was there, octet by octet, and what follows it is left. -/
theorem encode_of_parse {stream rest : Octets} {m : Message}
    (h : parse limit stream = .ok (some (m, rest))) :
    stream = m.encode ++ rest ∧ m.Fits limit := by
  unfold parse at h
  split at h
  · cases h
  · cases h
  · rename_i hd hc
    obtain ⟨h4, hlim, hlen⟩ := size_le_of_check hc
    -- what is complete has a header that could be read
    have hr : Header.read? stream = some hd := by
      unfold check at hc
      split at hc
      · cases hc
      · rename_i hd' hr
        split at hc
        · cases hc
        · split at hc
          · cases hc
          · split at hc
            · cases hc
            · cases hc
              exact hr
    obtain ⟨hs, hv, hf⟩ := Header.octets_of_read? hr
    cases h
    have hbody : ((stream.take hd.length.toNat).drop Header.size).length
        = hd.length.toNat - Header.size := by
      simp only [List.length_drop, List.length_take]
      omega
    have hsize : (Message.ofParts hd ((stream.take hd.length.toNat).drop Header.size)).size
        = hd.length.toNat := by
      simp only [Message.size, Message.ofParts, hbody]
      omega
    have hmax := hd.length.toNat_lt
    refine ⟨?_, hv, hf, by rw [hsize]; exact hlim, by rw [hsize, Message.maxSize]; omega⟩
    have hh : (Message.ofParts hd ((stream.take hd.length.toNat).drop Header.size)).header = hd :=
      Message.header_ofParts (by rw [hbody]; omega)
    rw [Message.encode, hh, Message.ofParts, List.append_assoc]
    -- the header in front, then the body up to the declared length, then the rest
    have htake : hd.octets = (stream.take hd.length.toNat).take Header.size := by
      rw [List.take_take, Nat.min_eq_left h4]
      conv => rhs; rw [hs]
      rw [← Header.length_octets hd, List.take_left]
    rw [htake, ← List.append_assoc, List.take_append_drop, List.take_append_drop]

/-- While a message is not all there, nothing is cut off. -/
theorem parse_of_short {m : Message} (hm : m.Fits limit) {stream tail : Octets}
    (hs : stream ++ tail = m.encode) (hlt : stream.length < m.size) :
    parse limit stream = .ok none := by
  have hc : check limit stream = .incomplete := by
    by_cases h4 : stream.length < Header.size
    · simp only [check, Header.read?_eq_none h4]
    · -- the header is there, and it asks for more than what has come
      have hr : Header.read? stream = some m.header := by
        have : stream = m.header.octets ++ stream.drop Header.size := by
          have htake : stream.take Header.size = m.header.octets := by
            have := congrArg (List.take Header.size) hs
            rw [List.take_append_of_le_length (by omega), Message.encode,
              ← Header.length_octets m.header, List.take_left] at this
            rw [← Header.length_octets m.header]
            exact this
          rw [← htake, List.take_append_drop]
        rw [this]
        exact Header.read?_octets hm.version_lt hm.flags_lt _
      have h1 := m.size_pos
      have h2 := hm.size_le
      simp only [check, hr, hm.length_header]
      rw [if_neg (by omega), if_neg (by omega), if_pos (by rw [List.length_take]; omega)]
  simp only [parse, hc]

theorem parseAll_of_none {stream : Octets} (h : parse limit stream = .ok none) :
    parseAll limit stream = { messages := [], error := none, rest := stream } := by
  rw [parseAll]
  split <;> simp_all

theorem parseAll_of_some {stream rest : Octets} {m : Message}
    (h : parse limit stream = .ok (some (m, rest))) :
    parseAll limit stream = (parseAll limit rest).cons m := by
  rw [parseAll]
  split <;> simp_all

theorem parseAll_of_error {stream : Octets} {e : FrameError} (h : parse limit stream = .error e) :
    parseAll limit stream = { messages := [], error := some e, rest := stream } := by
  rw [parseAll]
  split <;> simp_all

theorem parse_of_incomplete {stream : Octets} (h : check limit stream = .incomplete) :
    parse limit stream = .ok none := by
  simp only [parse, h]

theorem check_of_parse_none {stream : Octets} (h : parse limit stream = .ok none) :
    check limit stream = .incomplete := by
  unfold parse at h
  split at h
  · assumption
  · cases h
  · cases h

/-- The messages of a stream and its rest are the stream again. -/
theorem parseAll_conserves (limit : Nat) (stream : Octets) :
    (parseAll limit stream).messages.flatMap Message.encode ++ (parseAll limit stream).rest
      = stream := by
  fun_induction parseAll limit stream with
  | case1 stream e h => simp
  | case2 stream h => simp
  | case3 stream m rest h hlt ih =>
    simp only [Parsed.cons, List.flatMap_cons, List.append_assoc, ih]
    exact (encode_of_parse h).1.symm

/-- A stream without a framing error is cut up to a message that is not all there. -/
theorem check_rest_parseAll {stream : Octets} (h : (parseAll limit stream).error = none) :
    check limit (parseAll limit stream).rest = .incomplete := by
  fun_induction parseAll limit stream with
  | case1 stream e hp => cases h
  | case2 stream hp => exact check_of_parse_none hp
  | case3 stream m rest hp hlt ih => exact ih h

/-- A piece of an encoded stream gives the messages it completes, and what it leaves goes on with
the messages that follow. -/
theorem parseAll_of_encoded (limit : Nat) {messages : List Message}
    (hfit : ∀ m ∈ messages, m.Fits limit) {stream tail : Octets}
    (hs : stream ++ tail = messages.flatMap Message.encode) :
    (parseAll limit stream).error = none ∧
      ∃ later, messages = (parseAll limit stream).messages ++ later ∧
        (parseAll limit stream).rest ++ tail = later.flatMap Message.encode := by
  induction messages generalizing stream with
  | nil =>
    simp only [List.flatMap_nil, List.append_eq_nil_iff] at hs
    obtain ⟨rfl, rfl⟩ := hs
    rw [parseAll_of_none rfl]
    exact ⟨rfl, [], rfl, rfl⟩
  | cons m more ih =>
    have hm := hfit m (List.mem_cons_self ..)
    rw [List.flatMap_cons] at hs
    by_cases hlt : stream.length < m.size
    · -- the cut falls inside the first message
      obtain ⟨mid, hmid, htail⟩ : ∃ mid, stream ++ mid = m.encode ∧ tail = mid ++
          more.flatMap Message.encode := by
        rcases List.append_eq_append_iff.mp hs with ⟨mid, h1, h2⟩ | ⟨mid, h1, h2⟩
        · exact ⟨mid, h1.symm, h2⟩
        · rw [h1, List.length_append, Message.length_encode] at hlt
          omega
      rw [parseAll_of_none (parse_of_short hm hmid hlt)]
      exact ⟨rfl, m :: more, rfl, hs⟩
    · -- the first message is all there, and the cut falls somewhere after it
      obtain ⟨mid, hstream, hmore⟩ : ∃ mid, stream = m.encode ++ mid ∧
          mid ++ tail = more.flatMap Message.encode := by
        rcases List.append_eq_append_iff.mp hs with ⟨mid, h1, h2⟩ | ⟨mid, h1, h2⟩
        · -- it ends just where the stream does
          have hlen := congrArg List.length h1
          rw [List.length_append, Message.length_encode] at hlen
          obtain rfl : mid = [] := List.eq_nil_of_length_eq_zero (by omega)
          exact ⟨[], by simpa using h1.symm, by simpa using h2⟩
        · exact ⟨mid, h1, h2.symm⟩
      obtain ⟨herr, later, hlater, hrest⟩ :=
        ih (fun m' h' => hfit m' (List.mem_cons_of_mem _ h')) hmore
      rw [hstream, parseAll_of_some (parse_encode hm mid)]
      exact ⟨herr, later, by simp only [Parsed.cons, List.cons_append, ← hlater], hrest⟩

/-- Every message that is cut off is within the limit. -/
theorem fits_of_mem_parseAll {stream : Octets} :
    ∀ m ∈ (parseAll limit stream).messages, m.Fits limit := by
  fun_induction parseAll limit stream with
  | case1 stream e hp => exact nofun
  | case2 stream hp => exact nofun
  | case3 stream m rest hp hlt ih =>
    intro m' hm'
    rcases List.mem_cons.mp hm' with rfl | hm'
    · exact (encode_of_parse hp).2
    · exact ih m' hm'

/-! ### A smaller limit -/

theorem check_of_le {limit' : Nat} (hle : limit ≤ limit') {stream : Octets}
    (h : ∀ e, check limit stream ≠ .broken e) : check limit' stream = check limit stream := by
  unfold check at h ⊢
  split
  · rfl
  · rename_i hd hr
    simp only [hr] at h
    by_cases hsmall : hd.length.toNat < Header.size
    · rw [if_pos hsmall, if_pos hsmall]
    · rw [if_neg hsmall] at h
      by_cases hlarge : limit < hd.length.toNat
      · rw [if_pos hlarge] at h
        exact absurd rfl (h _)
      · have hlarge' : ¬limit' < hd.length.toNat := by omega
        rw [if_neg hsmall, if_neg hsmall, if_neg hlarge, if_neg hlarge']

/-- What frames well within a limit does so within a larger one. -/
theorem parse_of_le {limit' : Nat} (hle : limit ≤ limit') {stream : Octets}
    {found : Option (Message × Octets)} (h : parse limit stream = .ok found) :
    parse limit' stream = .ok found := by
  have hcheck : check limit' stream = check limit stream := by
    refine check_of_le hle fun e hc => ?_
    simp only [parse, hc] at h
    cases h
  rw [← h]
  simp only [parse, hcheck]

theorem parseAll_of_le {limit' : Nat} (hle : limit ≤ limit') {stream : Octets}
    (h : (parseAll limit stream).error = none) :
    parseAll limit' stream = parseAll limit stream := by
  fun_induction parseAll limit stream with
  | case1 stream e hp => cases h
  | case2 stream hp => exact parseAll_of_none (parse_of_le hle hp)
  | case3 stream m rest hp hlt ih => rw [parseAll_of_some (parse_of_le hle hp), ih h]

/-! ### The buffer in place -/

/-- Take the first message out of a buffer, if it holds one: what came of it, and the buffer
afterwards. -/
def cut (limit : Nat) (buffer : Octets) : Except FrameError (Option Message) × Octets :=
  match check limit buffer with
  | .incomplete => (.ok none, buffer)
  | .broken e => (.error e, buffer)
  | .complete h =>
    let frame := buffer.take h.length.toNat
    (.ok (some (.ofParts h (frame.drop Header.size))), buffer.drop h.length.toNat)

/-- Taking out of a buffer is parsing it as a stream. -/
theorem parse_eq_cut (limit : Nat) (buffer : Octets) :
    parse limit buffer = (cut limit buffer).1.map (Option.map (·, (cut limit buffer).2)) := by
  unfold parse cut
  cases check limit buffer <;> rfl

theorem cut_eq_some_iff {buffer left : Octets} {m : Message} :
    cut limit buffer = (.ok (some m), left) ↔ parse limit buffer = .ok (some (m, left)) := by
  unfold parse cut
  cases check limit buffer with
  | incomplete | broken e => constructor <;> intro h <;> cases h
  | complete h => simp

/-- What is taken out of a buffer is what fits and was encoded at its front. -/
theorem cut_eq_some_iff_encode {buffer left : Octets} {m : Message} :
    cut limit buffer = (.ok (some m), left) ↔ m.Fits limit ∧ buffer = m.encode ++ left := by
  rw [cut_eq_some_iff]
  constructor
  · intro h
    obtain ⟨hbuffer, hfits⟩ := encode_of_parse h
    exact ⟨hfits, hbuffer⟩
  · rintro ⟨hfits, rfl⟩
    exact parse_encode hfits left

theorem cut_of_no_message {buffer : Octets} (h : ∀ m, (cut limit buffer).1 ≠ .ok (some m)) :
    (cut limit buffer).2 = buffer := by
  unfold cut at h ⊢
  cases hc : check limit buffer with
  | incomplete | broken e => rfl
  | complete hd =>
    rw [hc] at h
    exact absurd rfl (h _)

/-- A stream is parsed by taking messages out of it, as long as there are any. -/
theorem parseAll_eq_cut (limit : Nat) (stream : Octets) :
    parseAll limit stream =
      match cut limit stream with
      | (.ok (some m), left) => (parseAll limit left).cons m
      | (.ok none, left) => { messages := [], error := none, rest := left }
      | (.error e, left) => { messages := [], error := some e, rest := left } := by
  unfold cut
  cases hc : check limit stream with
  | incomplete => exact parseAll_of_none (parse_of_incomplete hc)
  | broken e => exact parseAll_of_error (by simp only [parse, hc])
  | complete h => exact parseAll_of_some (by simp only [parse, hc])

/-- **Encoding and taking out of a buffer are inverse.**  The buffer held the message that is taken
out, encoded, and what is left behind it.  Every message whose version and flags fit into their
bits, of any type, whose size is within the limit and the length field, is taken out again, whatever
follows it.  Without a message the buffer stays as it is.  A message that is built for a
collaborator is always one of these. -/
theorem cut_inverse (limit : Nat) :
    (∀ buffer m left, cut limit buffer = (.ok (some m), left) →
        buffer = m.encode ++ left ∧ m.Fits limit) ∧
      (∀ (m : Message) suffix, m.version.toNat < 8 → m.flags.toNat < 32 →
        m.size ≤ min limit Message.maxSize →
        cut limit (m.encode ++ suffix) = (.ok (some m), suffix)) ∧
      (∀ buffer, (∀ m, (cut limit buffer).1 ≠ .ok (some m)) → (cut limit buffer).2 = buffer) ∧
      (∀ buffer, parse limit buffer =
        (cut limit buffer).1.map (Option.map (·, (cut limit buffer).2))) ∧
      (∀ stream, parseAll limit stream =
        match cut limit stream with
        | (.ok (some m), left) => (parseAll limit left).cons m
        | (.ok none, left) => { messages := [], error := none, rest := left }
        | (.error e, left) => { messages := [], error := some e, rest := left }) ∧
      ∀ kind body m, Message.make? kind body = .ok m →
        m.version.toNat < 8 ∧ m.flags.toNat < 32 ∧ m.encode.length = m.size ∧
          m.size ≤ Message.maxSize := by
  refine ⟨fun buffer m left h => ?_, fun m suffix hv hf hsize => ?_, fun _ => cut_of_no_message,
    parse_eq_cut limit, parseAll_eq_cut limit, fun kind body m h => ?_⟩
  · exact (cut_eq_some_iff_encode.mp h).symm
  · obtain ⟨hl, hm⟩ := Nat.le_min.mp hsize
    exact cut_eq_some_iff_encode.mpr ⟨⟨hv, hf, hl, hm⟩, rfl⟩
  · obtain ⟨hv, hf, -, hm⟩ := Message.fits_of_make? h
    exact ⟨hv, hf, m.length_encode, hm⟩

end Frame

end PathSession
