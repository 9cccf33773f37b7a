/-!
# Octet strings

What stands on a wire is a list of octets.  This file fixes how numbers are laid out in it:

* `Octets.ofWord`, `Octets.toWord`: a 16 bit word, the high octet first;
* `Octets.packed`, `Octets.upper3`, `Octets.lower5`: the octet shared by a 3 bit version and
  5 bits of flags, used by the common header and by the OPEN object.
-/

namespace PathSession

/-- A string of octets, in the order of the wire. -/
abbrev Octets := List UInt8

namespace Octets

/-- The two octets of a 16 bit word, the high one first. -/
def ofWord (w : UInt16) : Octets :=
  [UInt8.ofNat (w.toNat / 256), UInt8.ofNat (w.toNat % 256)]

/-- The word whose high octet comes first. -/
def toWord (hi lo : UInt8) : UInt16 :=
  UInt16.ofNat (hi.toNat * 256 + lo.toNat)

/-- A version and five flag bits in one octet; higher bits of either are lost. -/
def packed (version flags : UInt8) : UInt8 :=
  UInt8.ofNat (version.toNat * 32 + flags.toNat % 32)

/-- The version part of a packed octet. -/
def upper3 (b : UInt8) : UInt8 := b / 32

/-- The flag part of a packed octet. -/
def lower5 (b : UInt8) : UInt8 := b % 32

@[simp] theorem length_ofWord (w : UInt16) : (ofWord w).length = 2 := rfl

theorem toWord_ofWord (w : UInt16) :
    toWord (UInt8.ofNat (w.toNat / 256)) (UInt8.ofNat (w.toNat % 256)) = w := by
  apply UInt16.toNat_inj.mp
  have h := w.toNat_lt
  simp [toWord]
  omega

theorem ofWord_toWord (hi lo : UInt8) : ofWord (toWord hi lo) = [hi, lo] := by
  have h1 := hi.toNat_lt
  have h2 := lo.toNat_lt
  have h : (hi.toNat * 256 + lo.toNat) % 65536 = hi.toNat * 256 + lo.toNat := by omega
  simp only [ofWord, toWord, UInt16.toNat_ofNat', h, List.cons.injEq, and_true]
  constructor <;> apply UInt8.toNat_inj.mp
  · simp
    omega
  · simp

end Octets

end PathSession
