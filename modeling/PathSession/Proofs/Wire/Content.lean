import PathSession.Proofs.Wire.Framing
import PathSession.Wire.Content

/-!
# A session's own messages are read back

The messages a session builds have the content they were built from, and fit every wire that lets
messages of twenty octets through.

* `WireObject.read_plain`: one object of four octets and what follows it;
* `OpenObject.content_message`, `ErrorObject.content_message`, `CloseCause.content_message`,
  `content_keepaliveMessage`;
* `Message.kind_of_content`: the content of a message tells its type.
-/

namespace PathSession

/-- An outgoing message has the content of its body. -/
theorem Message.content_make (kind : MessageKind) (body : Octets) :
    (make kind body).content = Content.ofBody kind body := by
  simp only [content, make, Message.kind, kind?, MessageKind.ofCode?_code]
  rfl

theorem Content.bind_eq_ok_iff {body : Octets} {c : Content}
    {f : List WireObject → Except FormatError Content} :
    (WireObject.readAll body >>= f) = .ok c ↔
      ∃ objects, WireObject.readAll body = .ok objects ∧ f objects = .ok c := by
  cases WireObject.readAll body with
  | error e => exact ⟨nofun, nofun⟩
  | ok objects => simp [bind, Except.bind]

namespace WireObject

theorem readAll_nil : readAll [] = .ok [] := by
  rw [readAll]

theorem readAll_of_read {bs rest : Octets} {o : WireObject} (h : read bs = .ok (o, rest)) :
    readAll bs = (readAll rest).map (o :: ·) := by
  cases bs with
  | nil => cases h
  | cons b bs =>
    rw [readAll]
    split
    · simp_all
    · simp_all

/-- An object of type 1 without flags is read off the front by its class. -/
theorem read_plain (objectClass b₁ b₂ b₃ b₄ : UInt8) (rest : Octets) :
    read ((ObjectHeader.plain objectClass).octets ++ [b₁, b₂, b₃, b₄] ++ rest) =
      (ofBody (ObjectHeader.plain objectClass) [b₁, b₂, b₃, b₄]).map fun o => (o, rest) := by
  have hoctets : (ObjectHeader.plain objectClass).octets = [objectClass, 16, 0, 8] := by
    simp [ObjectHeader.octets, ObjectHeader.plain, ObjectHeader.typeOctet, Octets.ofWord]
  have hheader : headerOf objectClass 16 0 8 = ObjectHeader.plain objectClass := rfl
  have hlength : (ObjectHeader.plain objectClass).length.toNat = 8 := rfl
  rw [hoctets]
  simp only [List.cons_append, List.nil_append, read, hheader, hlength, ObjectHeader.size]
  rw [if_neg (by decide), if_neg (by simp)]
  rfl

end WireObject

namespace OpenObject

variable {o : OpenObject}

theorem read_octets (hv : o.version.toNat < 8) (hf : o.flags.toNat < 32) (rest : Octets) :
    WireObject.read (o.octets ++ rest) = .ok (.opening o, rest) := by
  rw [octets, WireObject.read_plain]
  simp only [WireObject.ofBody, ObjectHeader.plain, and_self, if_true, readBody,
    Octets.upper3_packed hv, Octets.lower5_packed hf]
  rfl

/-- An OPEN message has the object it carries as its content. -/
theorem content_message (hv : o.version = protocolVersion) (hf : o.flags.toNat < 32) :
    o.message.content = .ok (.opening o) := by
  have hread : WireObject.readAll o.octets = .ok [.opening o] := by
    have h := read_octets (o := o) (by rw [hv]; decide) hf []
    rw [List.append_nil] at h
    rw [WireObject.readAll_of_read h, WireObject.readAll_nil]
    rfl
  show (Message.make .opening o.octets).content = _
  rw [Message.content_make, Content.ofBody, hread]
  show Content.ofOpening [.opening o] = _
  rw [Content.ofOpening, if_pos hv]

theorem content_propose (keepalive deadTimer sessionId : UInt8) :
    (propose keepalive deadTimer sessionId).message.content
      = .ok (.opening (propose keepalive deadTimer sessionId)) :=
  content_message rfl (show (0 : UInt8).toNat < 32 by decide)

end OpenObject

namespace ErrorObject

theorem read_octets (e : ErrorObject) (rest : Octets) :
    WireObject.read (e.octets ++ rest) = .ok (.error e, rest) := by
  rw [octets, WireObject.read_plain]
  rfl

/-- An ERROR message has its error and the proposal attached to it as its content. -/
theorem content_message (e : ErrorObject) (proposal : Option OpenObject)
    (hp : ∀ o ∈ proposal, o.version.toNat < 8 ∧ o.flags.toNat < 32) :
    (e.message proposal).content = .ok (.error e proposal) := by
  have hread : WireObject.readAll (e.octets ++ (proposal.map OpenObject.octets).getD [])
      = .ok (.error e :: (proposal.map WireObject.opening).toList) := by
    rw [WireObject.readAll_of_read (read_octets e _)]
    cases proposal with
    | none =>
      rw [Option.map_none, Option.getD_none, WireObject.readAll_nil]
      rfl
    | some o =>
      obtain ⟨hv, hf⟩ := hp o rfl
      have h := OpenObject.read_octets hv hf []
      rw [List.append_nil] at h
      rw [Option.map_some, Option.getD_some, WireObject.readAll_of_read h, WireObject.readAll_nil]
      rfl
  show (Message.make .error _).content = _
  rw [Message.content_make, Content.ofBody, hread]
  cases proposal <;> rfl

end ErrorObject

/-- A CLOSE message has its reason as its content. -/
theorem CloseCause.content_message (c : CloseCause) :
    c.message.content = .ok (.close { flags := 0, reason := c.value }) := by
  have hread : WireObject.readAll (CloseObject.octets { flags := 0, reason := c.value })
      = .ok [.close { flags := 0, reason := c.value }] := by
    have h := WireObject.read_plain CloseObject.classCode 0 0 0 c.value []
    rw [List.append_nil] at h
    rw [CloseObject.octets, WireObject.readAll_of_read (h.trans rfl), WireObject.readAll_nil]
    rfl
  show (Message.make .close _).content = _
  rw [Message.content_make, Content.ofBody, hread]
  rfl

theorem content_keepaliveMessage : keepaliveMessage.content = .ok .keepalive := rfl

/-- The type of the messages with a given content. -/
def Content.kind : Content → MessageKind
  | opening _ => .opening
  | keepalive => .keepalive
  | error _ _ => .error
  | close _ => .close
  | data kind => kind

namespace Message

variable {m : Message}

/-- The content of a message tells its type. -/
theorem kind_of_content {c : Content} (h : m.content = .ok c) : m.kind = .ok c.kind := by
  unfold content at h
  split at h
  · cases h
  · cases hk : m.kind with
    | error e =>
      rw [hk] at h
      cases h
    | ok k =>
      rw [hk] at h
      replace h : Content.ofBody k m.body = .ok c := h
      cases k with
      | opening =>
        obtain ⟨os, -, hos⟩ := Content.bind_eq_ok_iff.mp h
        unfold Content.ofOpening at hos
        split at hos
        · split at hos
          · cases hos
            rfl
          · cases hos
        · cases hos
      | error =>
        obtain ⟨os, -, hos⟩ := Content.bind_eq_ok_iff.mp h
        unfold Content.ofError at hos
        split at hos
        · cases hos
          rfl
        · cases hos
      | close =>
        obtain ⟨os, -, hos⟩ := Content.bind_eq_ok_iff.mp h
        unfold Content.ofClose at hos
        split at hos
        · cases hos
          rfl
        · cases hos
      | keepalive | request | response | notification =>
        cases h
        rfl

/-- What a session builds itself fits every wire that carries twenty octets. -/
theorem fits_propose {limit : Nat} (hl : 20 ≤ limit) (o : OpenObject) : o.message.Fits limit := by
  have hsize : Header.size + o.octets.length = 12 := rfl
  exact fits_make (by omega) (by rw [hsize]; decide)

theorem fits_error {limit : Nat} (hl : 20 ≤ limit) (e : ErrorObject)
    (proposal : Option OpenObject) : (e.message proposal).Fits limit := by
  cases proposal with
  | none =>
    have hsize : Header.size + (e.octets ++ []).length = 12 := rfl
    exact fits_make (by rw [Option.map_none, Option.getD_none, hsize]; omega)
      (by rw [Option.map_none, Option.getD_none, hsize]; decide)
  | some o =>
    have hsize : Header.size + (e.octets ++ o.octets).length = 20 := rfl
    exact fits_make (by rw [Option.map_some, Option.getD_some, hsize]; omega)
      (by rw [Option.map_some, Option.getD_some, hsize]; decide)

theorem fits_closeCause {limit : Nat} (hl : 20 ≤ limit) (c : CloseCause) :
    c.message.Fits limit := by
  have hsize : Header.size + (CloseObject.octets { flags := 0, reason := c.value }).length = 12 :=
    rfl
  exact fits_make (by omega) (by rw [hsize]; decide)

theorem fits_keepaliveMessage {limit : Nat} (hl : 20 ≤ limit) : keepaliveMessage.Fits limit :=
  fits_make (show 4 ≤ limit by omega) (by decide)

end Message

end PathSession
