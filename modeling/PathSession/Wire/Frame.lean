import PathSession.Wire.Message

/-!
# Frames

Cutting complete messages off the front of a byte stream.

* `Frame.check`: whether the stream starts with a complete message;
* `Frame.parse`: the first message and what follows it;
* `Frame.parseAll`: all complete messages, and how the stream goes on.
-/

namespace PathSession

/-- Why a byte stream can not be framed. -/
inductive FrameError
  /-- the declared length does not even cover the header -/
  | belowHeader (length : Nat)
  /-- the declared length is over the limit -/
  | tooLarge (length : Nat)
  deriving DecidableEq, Repr

/-- What is said about a stream that can not be framed. -/
def FrameError.text : FrameError → String
  | belowHeader length => s!"frame length {length} less than header length 4"
  | tooLarge length => s!"Frame of length {length} is too large."

namespace Frame

/-- What the front of a stream holds. -/
inductive Front
  /-- a complete message under this header -/
  | complete (header : Header)
  /-- the header or the declared body is still missing -/
  | incomplete
  /-- a length that can never be satisfied -/
  | broken (error : FrameError)
  deriving DecidableEq, Repr

/-- Look at the front of a stream; messages above `limit` octets are refused. -/
def check (limit : Nat) (stream : Octets) : Front :=
  match Header.read? stream with
  | none => .incomplete
  | some h =>
    if h.length.toNat < Header.size then
      .broken (.belowHeader h.length.toNat)
    else if limit < h.length.toNat then
      .broken (.tooLarge h.length.toNat)
    else if (stream.take h.length.toNat).length < h.length.toNat then
      .incomplete
    else
      .complete h

/-- The first message of a stream and what follows it, `none` while it is incomplete. -/
def parse (limit : Nat) (stream : Octets) : Except FrameError (Option (Message × Octets)) :=
  match check limit stream with
  | .incomplete => .ok none
  | .broken e => .error e
  | .complete h =>
    .ok (some (Message.ofParts h ((stream.take h.length.toNat).drop Header.size),
      stream.drop h.length.toNat))

/-- A complete message lies wholly in the stream and covers at least its header. -/
theorem size_le_of_check {limit : Nat} {stream : Octets} {h : Header}
    (hc : check limit stream = .complete h) :
    Header.size ≤ h.length.toNat ∧ h.length.toNat ≤ limit
      ∧ h.length.toNat ≤ stream.length := by
  unfold check at hc
  split at hc
  · cases hc
  · split at hc
    · cases hc
    · split at hc
      · cases hc
      · split at hc
        · cases hc
        · cases hc
          rename_i h4 hl ht
          rw [List.length_take] at ht
          omega

theorem length_lt_of_parse {limit : Nat} {stream rest : Octets} {m : Message}
    (h : parse limit stream = .ok (some (m, rest))) : rest.length < stream.length := by
  unfold parse at h
  split at h
  · cases h
  · cases h
  · rename_i hd hc
    cases h
    have := size_le_of_check hc
    simp only [Header.size] at this
    simp only [List.length_drop]
    omega

/-- Every complete message of a stream, in order, with the octets that are left and the error
that stopped the framing, if any. -/
structure Parsed where
  messages : List Message
  error : Option FrameError
  rest : Octets
  deriving DecidableEq, Repr

/-- Put a message in front. -/
def Parsed.cons (m : Message) (p : Parsed) : Parsed := { p with messages := m :: p.messages }

/-- Parse until the stream holds no further complete message. -/
def parseAll (limit : Nat) (stream : Octets) : Parsed :=
  match h : parse limit stream with
  | .error e => { messages := [], error := some e, rest := stream }
  | .ok none => { messages := [], error := none, rest := stream }
  | .ok (some (m, rest)) =>
    have := length_lt_of_parse h
    (parseAll limit rest).cons m
termination_by stream.length

end Frame

end PathSession
