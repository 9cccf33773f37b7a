import Mathlib.Data.List.Forall2
import PathSession.Proofs.Wire.Content

/-!
# The language of accepted messages

A body is a list of objects, each spelled as a header and the octets under it.  The grammar says
which octets spell which object, without a reader; the reader takes exactly what the grammar spells,
and each type of message asks for its own objects.

* `Spelling`: the octets of one object, with the bits of its header that mean nothing;
* `Spelling.Means`: the object that is spelled;
* `WireObject.read_eq_ok_iff`, `WireObject.readAll_eq_ok_iff`: what is read is what is spelled;
* `Content.Spelled`: the bodies of each type of message and their content;
* `Message.content_eq_ok_iff`, `Message.accepted_language`: the whole language.
-/

namespace PathSession

theorem Except.map_eq_ok_iff {ε α β : Type} {f : α → β} {x : Except ε α} {b : β} :
    x.map f = .ok b ↔ ∃ a, x = .ok a ∧ f a = b := by
  cases x <;> simp [Except.map]

/-! ### The octets under a known header -/

theorem Octets.exists_of_length_eq_four {body : Octets} (h : body.length = 4) :
    ∃ b₁ b₂ b₃ b₄, body = [b₁, b₂, b₃, b₄] :=
  match body, h with
  | [b₁, b₂, b₃, b₄], _ => ⟨b₁, b₂, b₃, b₄, rfl⟩

theorem OpenObject.readBody_eq_ok_iff {body : Octets} {o : OpenObject} :
    readBody body = .ok o ↔ o.version.toNat < 8 ∧ o.flags.toNat < 32 ∧
      body = [Octets.packed o.version o.flags, o.keepalive, o.deadTimer, o.sessionId] := by
  constructor
  · intro h
    unfold readBody at h
    split at h
    · rename_i b keepalive deadTimer sessionId
      cases h
      exact ⟨Octets.upper3_lt b, Octets.lower5_lt b, by rw [Octets.packed_upper3_lower5]⟩
    · cases h
  · rintro ⟨hv, hf, rfl⟩
    rw [readBody, Octets.upper3_packed hv, Octets.lower5_packed hf]

theorem ErrorObject.readBody_eq_ok_iff {body : Octets} {e : ErrorObject} :
    readBody body = .ok e ↔ ∃ reserved, body = [reserved, e.flags, e.errorType, e.errorValue] := by
  constructor
  · intro h
    unfold readBody at h
    split at h
    · cases h
      exact ⟨_, rfl⟩
    · cases h
  · rintro ⟨reserved, rfl⟩
    rfl

theorem CloseObject.readBody_eq_ok_iff {body : Octets} {c : CloseObject} :
    readBody body = .ok c ↔
      ∃ reserved₁ reserved₂, body = [reserved₁, reserved₂, c.flags, c.reason] := by
  constructor
  · intro h
    unfold readBody at h
    split at h
    · cases h
      exact ⟨_, _, rfl⟩
    · cases h
  · rintro ⟨reserved₁, reserved₂, rfl⟩
    rfl

/-! ### The grammar of objects -/

/-- Whether objects of this class and type have a meaning of their own. -/
def ObjectHeader.Known (h : ObjectHeader) : Prop :=
  h.objectType = 1 ∧ (h.objectClass = 1 ∨ h.objectClass = 13 ∨ h.objectClass = 15)

/-- The octet of the type, two bits that mean nothing, and the two flags. -/
def ObjectHeader.typeOctetWith (h : ObjectHeader) (reserved : Fin 4) : UInt8 :=
  UInt8.ofNat (16 * h.objectType.toNat + 4 * reserved.val + 2 * h.processingRule.toNat
    + h.ignored.toNat)

/-- One object as it is spelled.  Its length counts the header, its type is below 16, and four
octets are under the header of a known object. -/
structure Spelling where
  header : ObjectHeader
  /-- the two bits between the type and the flags -/
  reserved : Fin 4
  body : Octets
  type_lt : header.objectType.toNat < 16
  length_eq : header.length.toNat = 4 + body.length
  known : header.Known → body.length = 4

namespace Spelling

/-- The octets of an object: the class, the type octet, the length, most significant octet first,
and what is under the header. -/
def octets (s : Spelling) : Octets :=
  s.header.objectClass :: s.header.typeOctetWith s.reserved ::
    Octets.ofWord s.header.length ++ s.body

/-- What an object means, by its header and the octets under it. -/
inductive Under (h : ObjectHeader) : Octets → WireObject → Prop
  | opening (o : OpenObject) (ht : h.objectType = 1) (hc : h.objectClass = 1)
      (hv : o.version.toNat < 8) (hf : o.flags.toNat < 32) :
      Under h [Octets.packed o.version o.flags, o.keepalive, o.deadTimer, o.sessionId] (.opening o)
  | error (reserved : UInt8) (e : ErrorObject) (ht : h.objectType = 1) (hc : h.objectClass = 13) :
      Under h [reserved, e.flags, e.errorType, e.errorValue] (.error e)
  | close (reserved₁ reserved₂ : UInt8) (c : CloseObject) (ht : h.objectType = 1)
      (hc : h.objectClass = 15) : Under h [reserved₁, reserved₂, c.flags, c.reason] (.close c)
  | other (body : Octets) (hk : ¬h.Known) : Under h body (.other h body)

/-- The object that is spelled. -/
def Means (s : Spelling) (o : WireObject) : Prop := Under s.header s.body o

variable {h : ObjectHeader} {body : Octets} {o : WireObject}

/-- Only four octets under a known header mean something. -/
theorem Under.length_of_known (hu : Under h body o) (hk : h.Known) : body.length = 4 := by
  cases hu with
  | opening | error | close => rfl
  | other _ hn => exact absurd hk hn

/-- What the reader makes of a header and the octets under it is what they mean. -/
theorem ofBody_eq_ok_iff : WireObject.ofBody h body = .ok o ↔ Under h body o := by
  constructor
  · intro hread
    unfold WireObject.ofBody at hread
    split_ifs at hread with hopen herror hclose
    · obtain ⟨o, hbody, rfl⟩ := Except.map_eq_ok_iff.mp hread
      obtain ⟨hv, hf, rfl⟩ := OpenObject.readBody_eq_ok_iff.mp hbody
      exact .opening o hopen.1 hopen.2 hv hf
    · obtain ⟨e, hbody, rfl⟩ := Except.map_eq_ok_iff.mp hread
      obtain ⟨reserved, rfl⟩ := ErrorObject.readBody_eq_ok_iff.mp hbody
      exact .error reserved e herror.1 herror.2
    · obtain ⟨c, hbody, rfl⟩ := Except.map_eq_ok_iff.mp hread
      obtain ⟨reserved₁, reserved₂, rfl⟩ := CloseObject.readBody_eq_ok_iff.mp hbody
      exact .close reserved₁ reserved₂ c hclose.1 hclose.2
    · cases hread
      refine .other body ?_
      rintro ⟨ht, hc | hc | hc⟩
      · exact hopen ⟨ht, hc⟩
      · exact herror ⟨ht, hc⟩
      · exact hclose ⟨ht, hc⟩
  · intro hu
    unfold WireObject.ofBody
    cases hu with
    | opening o ht hc hv hf =>
      rw [if_pos ⟨ht, hc⟩, OpenObject.readBody_eq_ok_iff.mpr ⟨hv, hf, rfl⟩]
      rfl
    | error reserved e ht hc =>
      rw [if_neg (by simp [hc, OpenObject.classCode]), if_pos ⟨ht, hc⟩,
        ErrorObject.readBody_eq_ok_iff.mpr ⟨reserved, rfl⟩]
      rfl
    | close reserved₁ reserved₂ c ht hc =>
      rw [if_neg (by simp [hc, OpenObject.classCode]), if_neg (by simp [hc, ErrorObject.classCode]),
        if_pos ⟨ht, hc⟩, CloseObject.readBody_eq_ok_iff.mpr ⟨reserved₁, reserved₂, rfl⟩]
      rfl
    | other _ hk =>
      rw [if_neg fun hopen => hk ⟨hopen.1, .inl hopen.2⟩,
        if_neg fun herror => hk ⟨herror.1, .inr (.inl herror.2)⟩,
        if_neg fun hclose => hk ⟨hclose.1, .inr (.inr hclose.2)⟩]

/-- Whatever can be spelled means something. -/
theorem exists_under (h4 : h.Known → body.length = 4) : ∃ o, Under h body o := by
  by_cases hk : h.Known
  · obtain ⟨b₁, b₂, b₃, b₄, rfl⟩ := Octets.exists_of_length_eq_four (h4 hk)
    obtain ⟨ht, hc | hc | hc⟩ := hk
    · have hopen := Under.opening ⟨Octets.upper3 b₁, Octets.lower5 b₁, b₂, b₃, b₄⟩ ht hc
        (Octets.upper3_lt b₁) (Octets.lower5_lt b₁)
      rw [Octets.packed_upper3_lower5] at hopen
      exact ⟨_, hopen⟩
    · exact ⟨_, .error b₁ ⟨b₂, b₃, b₄⟩ ht hc⟩
    · exact ⟨_, .close b₁ b₂ ⟨b₃, b₄⟩ ht hc⟩
  · exact ⟨_, .other body hk⟩

theorem exists_means (s : Spelling) : ∃ o, s.Means o := exists_under s.known

end Spelling

/-! ### Reading one object -/

namespace ObjectHeader

/-- The value of a type octet: nothing is carried from one part of it into another. -/
theorem toNat_typeOctetWith {h : ObjectHeader} (ht : h.objectType.toNat < 16)
    (reserved : Fin 4) :
    (h.typeOctetWith reserved).toNat = 16 * h.objectType.toNat + 4 * reserved.val
      + 2 * h.processingRule.toNat + h.ignored.toNat := by
  have hr := reserved.isLt
  have hp := h.processingRule.toNat_le
  have hi := h.ignored.toNat_le
  rw [typeOctetWith, UInt8.toNat_ofNat']
  omega

/-- The bits of the type octet, read one by one. -/
theorem headerOf_typeOctetWith {h : ObjectHeader} (ht : h.objectType.toNat < 16)
    (reserved : Fin 4) (hi lo : UInt8) :
    WireObject.headerOf h.objectClass (h.typeOctetWith reserved) hi lo =
      { h with length := Octets.toWord hi lo } := by
  have hoctet := toNat_typeOctetWith ht reserved
  have hr := reserved.isLt
  have hp := h.processingRule.toNat_le
  have hi := h.ignored.toNat_le
  have htype : h.typeOctetWith reserved / 16 = h.objectType := by
    apply UInt8.toNat_inj.mp
    rw [UInt8.toNat_div, hoctet]
    show _ / 16 = _
    omega
  have hrule : (h.typeOctetWith reserved / 2 % 2 == 1) = h.processingRule := by
    rw [Bool.eq_iff_iff, beq_iff_eq, ← UInt8.toNat_inj, UInt8.toNat_mod, UInt8.toNat_div, hoctet,
      ← Bool.toNat_eq_one]
    show _ / 2 % 2 = 1 ↔ _
    omega
  have hignored : (h.typeOctetWith reserved % 2 == 1) = h.ignored := by
    rw [Bool.eq_iff_iff, beq_iff_eq, ← UInt8.toNat_inj, UInt8.toNat_mod, hoctet,
      ← Bool.toNat_eq_one]
    show _ % 2 = 1 ↔ _
    omega
  rw [WireObject.headerOf, htype, hrule, hignored]

theorem toNat_beq_one {b : UInt8} (hb : b.toNat < 2) : (b == 1).toNat = b.toNat := by
  have hone : (b == 1) = true ↔ b.toNat = 1 := by
    rw [beq_iff_eq, ← UInt8.toNat_inj]
    rfl
  cases h : b == 1 with
  | true => exact (hone.mp h).symm
  | false =>
    have hne : b.toNat ≠ 1 := fun hb => by simp [hone.mpr hb] at h
    show 0 = b.toNat
    omega

/-- The two bits of a type octet that mean nothing. -/
def reservedOf (t : UInt8) : Fin 4 := ⟨t.toNat / 4 % 4, Nat.mod_lt _ (by decide)⟩

theorem objectType_headerOf_lt (c t hi lo : UInt8) :
    (WireObject.headerOf c t hi lo).objectType.toNat < 16 := by
  have ht := t.toNat_lt
  rw [WireObject.headerOf, UInt8.toNat_div]
  show t.toNat / 16 < 16
  omega

/-- The type octet, made of its bits again. -/
theorem typeOctetWith_headerOf (c t hi lo : UInt8) :
    (WireObject.headerOf c t hi lo).typeOctetWith (reservedOf t) = t := by
  apply UInt8.toNat_inj.mp
  rw [toNat_typeOctetWith (objectType_headerOf_lt c t hi lo)]
  have hrule : (t / 2 % 2).toNat = t.toNat / 2 % 2 := by rw [UInt8.toNat_mod, UInt8.toNat_div]; rfl
  have hignored : (t % 2).toNat = t.toNat % 2 := by rw [UInt8.toNat_mod]; rfl
  have htype : (t / 16).toNat = t.toNat / 16 := by rw [UInt8.toNat_div]; rfl
  simp only [WireObject.headerOf, reservedOf]
  rw [toNat_beq_one (by omega), toNat_beq_one (by omega), hrule, hignored, htype]
  omega

end ObjectHeader

namespace WireObject

variable {bs rest body : Octets} {o : WireObject} {objects : List WireObject}

/-- The header in front of a spelled object is read as it is. -/
theorem read_octets (s : Spelling) (rest : Octets) :
    read (s.octets ++ rest) = (ofBody s.header s.body).map (·, rest) := by
  have hheader := ObjectHeader.headerOf_typeOctetWith s.type_lt s.reserved
    (UInt8.ofNat (s.header.length.toNat / 256)) (UInt8.ofNat (s.header.length.toNat % 256))
  rw [Octets.toWord_ofWord] at hheader
  have hlength := s.length_eq
  simp only [Spelling.octets, Octets.ofWord, List.cons_append, List.nil_append, read, hheader,
    ObjectHeader.size]
  rw [if_neg (by omega), hlength, Nat.add_sub_cancel_left, List.take_left, List.drop_left,
    if_neg (Nat.lt_irrefl _)]

/-- **One object is read exactly when one is spelled** at the front, and what follows it is left. -/
theorem read_eq_ok_iff :
    read bs = .ok (o, rest) ↔ ∃ s : Spelling, s.Means o ∧ bs = s.octets ++ rest := by
  constructor
  · intro h
    unfold read at h
    split at h
    · rename_i c t hi lo tail
      dsimp only at h
      split at h
      · cases h
      · rename_i hsmall
        split at h
        · cases h
        · rename_i hall
          obtain ⟨o', hbody, hpair⟩ := Except.map_eq_ok_iff.mp h
          cases hpair
          have hunder := Spelling.ofBody_eq_ok_iff.mp hbody
          have hlength : (tail.take ((headerOf c t hi lo).length.toNat - 4)).length =
              (headerOf c t hi lo).length.toNat - 4 :=
            Nat.le_antisymm (List.length_take_le _ _) (Nat.not_lt.mp hall)
          have hheader : 4 ≤ (headerOf c t hi lo).length.toNat := Nat.not_lt.mp hsmall
          refine ⟨⟨headerOf c t hi lo, ObjectHeader.reservedOf t,
            tail.take ((headerOf c t hi lo).length.toNat - 4),
            ObjectHeader.objectType_headerOf_lt c t hi lo, by omega, hunder.length_of_known⟩,
            hunder, ?_⟩
          have hword : Octets.ofWord (headerOf c t hi lo).length = [hi, lo] :=
            Octets.ofWord_toWord hi lo
          rw [Spelling.octets, ObjectHeader.typeOctetWith_headerOf, hword, List.append_assoc]
          exact congrArg (c :: t :: hi :: lo :: ·) (List.take_append_drop _ _).symm
    · cases h
  · rintro ⟨s, hmeans, rfl⟩
    rw [read_octets, Spelling.ofBody_eq_ok_iff.mpr hmeans]
    rfl

/-- **A body is read exactly when it is a list of spelled objects**, one behind the other, and what
is read are these objects in their order. -/
theorem readAll_eq_ok_iff : readAll body = .ok objects ↔
    ∃ spellings, List.Forall₂ Spelling.Means spellings objects ∧
      body = spellings.flatMap Spelling.octets := by
  constructor
  · intro h
    fun_induction readAll body generalizing objects with
    | case1 =>
      cases h
      exact ⟨[], .nil, rfl⟩
    | case2 b bs e hread => cases h
    | case3 b bs o rest hread hlt ih =>
      obtain ⟨objects, hmore, rfl⟩ := Except.map_eq_ok_iff.mp h
      obtain ⟨s, hs, hbody⟩ := read_eq_ok_iff.mp hread
      obtain ⟨spellings, hspellings, rfl⟩ := ih hmore
      exact ⟨s :: spellings, .cons hs hspellings, hbody⟩
  · rintro ⟨spellings, hmeans, rfl⟩
    induction hmeans with
    | nil => exact readAll_nil
    | @cons s o spellings objects hs hmore ih =>
      have hread : read (s.octets ++ spellings.flatMap Spelling.octets) = .ok (o, _) :=
        read_eq_ok_iff.mpr ⟨s, hs, rfl⟩
      rw [List.flatMap_cons, readAll_of_read hread, ih]
      rfl

/-- Every list of spelled objects means something. -/
theorem exists_means (spellings : List Spelling) :
    ∃ objects, List.Forall₂ Spelling.Means spellings objects := by
  induction spellings with
  | nil => exact ⟨[], .nil⟩
  | cons s spellings ih =>
    obtain ⟨o, hs⟩ := s.exists_means
    obtain ⟨objects, hspellings⟩ := ih
    exact ⟨o :: objects, .cons hs hspellings⟩

/-- A body can be read exactly when it is a list of spelled objects. -/
theorem readAll_succeeds_iff :
    (∃ objects, readAll body = .ok objects) ↔
      ∃ spellings : List Spelling, body = spellings.flatMap Spelling.octets := by
  constructor
  · rintro ⟨objects, h⟩
    obtain ⟨spellings, -, hbody⟩ := readAll_eq_ok_iff.mp h
    exact ⟨spellings, hbody⟩
  · rintro ⟨spellings, hbody⟩
    obtain ⟨objects, hmeans⟩ := exists_means spellings
    exact ⟨objects, readAll_eq_ok_iff.mpr ⟨spellings, hmeans, hbody⟩⟩

end WireObject

/-! ### Messages -/

namespace Content

/-- The bodies of each type of message, and their content.  An OPEN carries one OPEN object, of
this protocol version; an ERROR carries a PCEP-ERROR in front, and the first OPEN object is its
proposal; a CLOSE carries a CLOSE object somewhere, and the first one counts. -/
inductive Spelled : UInt8 → Octets → Content → Prop
  | opening (s : Spelling) (o : OpenObject) (hs : s.Means (.opening o)) (hv : o.version = 1) :
      Spelled 1 s.octets (.opening o)
  | keepalive (body : Octets) : Spelled 2 body .keepalive
  | request (body : Octets) : Spelled 3 body (.data .request)
  | response (body : Octets) : Spelled 4 body (.data .response)
  | notification (body : Octets) : Spelled 5 body (.data .notification)
  | error (spellings : List Spelling) (e : ErrorObject) (objects : List WireObject)
      (hs : List.Forall₂ Spelling.Means spellings (.error e :: objects)) :
      Spelled 6 (spellings.flatMap Spelling.octets)
        (.error e (objects.filterMap WireObject.opening?).head?)
  | close (spellings : List Spelling) (objects : List WireObject) (c : CloseObject)
      (hs : List.Forall₂ Spelling.Means spellings objects)
      (hc : (objects.filterMap WireObject.close?).head? = some c) :
      Spelled 7 (spellings.flatMap Spelling.octets) (.close c)

variable {body : Octets} {c : Content}

theorem ofBody_opening_iff : ofBody .opening body = .ok c ↔ Spelled 1 body c := by
  rw [ofBody, bind_eq_ok_iff]
  constructor
  · rintro ⟨objects, hread, hc⟩
    unfold ofOpening at hc
    split at hc
    · split at hc
      · rename_i o hv
        cases hc
        obtain ⟨spellings, hmeans, rfl⟩ := WireObject.readAll_eq_ok_iff.mp hread
        cases hmeans with
        | @cons s _ _ _ hs hnil =>
          cases hnil
          rw [List.flatMap_cons, List.flatMap_nil, List.append_nil]
          exact .opening s o hs hv
      · cases hc
    · cases hc
  · intro h
    cases h with
    | opening s o hs hv =>
      have hread : WireObject.readAll s.octets = .ok [.opening o] :=
        WireObject.readAll_eq_ok_iff.mpr ⟨[s], .cons hs .nil, by simp⟩
      exact ⟨_, hread, if_pos hv⟩

theorem ofBody_error_iff : ofBody .error body = .ok c ↔ Spelled 6 body c := by
  rw [ofBody, bind_eq_ok_iff]
  constructor
  · rintro ⟨objects, hread, hc⟩
    unfold ofError at hc
    split at hc
    · rename_i e objects
      cases hc
      obtain ⟨spellings, hmeans, rfl⟩ := WireObject.readAll_eq_ok_iff.mp hread
      rw [← List.head?_filterMap]
      exact .error spellings e objects hmeans
    · cases hc
  · intro h
    cases h with
    | error spellings e objects hs =>
      refine ⟨_, WireObject.readAll_eq_ok_iff.mpr ⟨spellings, hs, rfl⟩, ?_⟩
      rw [ofError, List.head?_filterMap]

theorem ofBody_close_iff : ofBody .close body = .ok c ↔ Spelled 7 body c := by
  rw [ofBody, bind_eq_ok_iff]
  constructor
  · rintro ⟨objects, hread, hc⟩
    unfold ofClose at hc
    split at hc
    · rename_i o hfound
      cases hc
      obtain ⟨spellings, hmeans, rfl⟩ := WireObject.readAll_eq_ok_iff.mp hread
      exact .close spellings objects o hmeans (List.head?_filterMap.trans hfound)
    · cases hc
  · intro h
    cases h with
    | close spellings objects o hs ho =>
      refine ⟨_, WireObject.readAll_eq_ok_iff.mpr ⟨spellings, hs, rfl⟩, ?_⟩
      rw [ofClose, ← List.head?_filterMap, ho]

/-- What is made of a body is what it spells, type by type. -/
theorem ofBody_eq_ok_iff (k : MessageKind) : ofBody k body = .ok c ↔ Spelled k.code body c := by
  -- the other types leave the body alone
  have hplain : ∀ {c'}, Except.ok c' = (Except.ok c : Except FormatError Content) ↔ c = c' :=
    ⟨fun h => (Except.ok.inj h).symm, fun h => congrArg _ h.symm⟩
  cases k with
  | opening => exact ofBody_opening_iff
  | error => exact ofBody_error_iff
  | close => exact ofBody_close_iff
  | keepalive =>
    refine hplain.trans ⟨fun h => h ▸ .keepalive body, fun h => ?_⟩
    cases h
    rfl
  | request =>
    refine hplain.trans ⟨fun h => h ▸ .request body, fun h => ?_⟩
    cases h
    rfl
  | response =>
    refine hplain.trans ⟨fun h => h ▸ .response body, fun h => ?_⟩
    cases h
    rfl
  | notification =>
    refine hplain.trans ⟨fun h => h ▸ .notification body, fun h => ?_⟩
    cases h
    rfl

/-- Only the seven known types have a body that spells something. -/
theorem Spelled.ofCode? {code : UInt8} (h : Spelled code body c) :
    ∃ k, MessageKind.ofCode? code = some k := by
  cases h <;> exact ⟨_, rfl⟩

end Content

namespace MessageKind

theorem code_of_ofCode? {code : UInt8} {k : MessageKind} (h : ofCode? code = some k) :
    k.code = code := by
  unfold ofCode? at h
  split at h <;> cases h <;> rfl

end MessageKind

namespace Message

variable {m : Message} {c : Content}

/-- **A message has a content exactly when its body spells one** for its type, in a header of this
protocol version. -/
theorem content_eq_ok_iff :
    m.content = .ok c ↔ m.version = 1 ∧ Content.Spelled m.code m.body c := by
  unfold content
  split
  · rename_i hv
    exact ⟨nofun, fun h => absurd h.1 hv⟩
  · rename_i hv
    have hversion : m.version = 1 := not_not.mp hv
    rw [and_iff_right hversion]
    cases hk : m.kind? with
    | none =>
      refine ⟨fun h => ?_, fun h => ?_⟩
      · rw [kind, hk] at h
        cases h
      · obtain ⟨k, hcode⟩ := h.ofCode?
        rw [kind?, hcode] at hk
        cases hk
    | some k =>
      rw [← MessageKind.code_of_ofCode? hk, ← Content.ofBody_eq_ok_iff, kind, hk]
      rfl

/-- **The language of accepted messages.**  A body can be read exactly when it is a list of objects,
each a header whose length is 4 more than that of the octets that follow for it, which are four if
the object is a known one; and what is read are these objects, in order, with all their fields.  A
message is accepted exactly when its version is 1 and it is a KEEPALIVE, REQUEST, RESPONSE or
NOTIFICATION, or an OPEN whose body is one OPEN object of version 1, or an ERROR whose body can be
read and has a PCEP-ERROR in front, or a CLOSE whose body can be read and has a CLOSE object. -/
theorem accepted_language :
    (∀ body : Octets, (∃ objects, WireObject.readAll body = .ok objects) ↔
        ∃ spellings : List Spelling, body = spellings.flatMap Spelling.octets) ∧
      (∀ body objects, WireObject.readAll body = .ok objects ↔
        ∃ spellings, List.Forall₂ Spelling.Means spellings objects ∧
          body = spellings.flatMap Spelling.octets) ∧
      ∀ (m : Message) c, m.content = .ok c ↔ m.version = 1 ∧ Content.Spelled m.code m.body c :=
  ⟨fun _ => WireObject.readAll_succeeds_iff, fun _ _ => WireObject.readAll_eq_ok_iff,
    fun _ _ => content_eq_ok_iff⟩

end Message

end PathSession
