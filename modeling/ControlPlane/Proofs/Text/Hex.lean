import ControlPlane.ObjectId
import ControlPlane.Proofs.Text.Utf8

/-!
# Hexadecimal text is read back

The digits of a byte string are read back as the byte string (`Hex.decode_encode`), so an object
id survives being written into a payload (`ObjectId.parsePayload_toHex`).
-/

set_option autoImplicit false

namespace ControlPlane

namespace Hex

/-- The digit of a number below sixteen, as an octet. -/
theorem value?_digit {n : Nat} (h : n < 16) : value? (.ofNat (digit n).toNat) = some n := by
  decide +revert

theorem encodeChar_digit {n : Nat} (h : n < 16) :
    Utf8.encodeChar (digit n) = [.ofNat (digit n).toNat] := by
  decide +revert

/-- The octets of the digits of a byte string: two for each octet. -/
def octets (bs : Bytes) : Bytes :=
  bs.flatMap fun b => [.ofNat (digit (b.toNat / 16)).toNat, .ofNat (digit (b.toNat % 16)).toNat]

theorem ofString_encode (bs : Bytes) : Bytes.ofString (encode bs) = octets bs := by
  rw [Bytes.ofString, encode, String.toList_ofList]
  induction bs with
  | nil => rfl
  | cons b bs ih =>
      have hb : b.toNat < 256 := b.toNat_lt
      show Utf8.encodeChar _ ++ (Utf8.encodeChar _ ++ Utf8.encode (bs.flatMap pair)) = _
      rw [encodeChar_digit (by omega), encodeChar_digit (by omega), ih]
      rfl

theorem length_octets (bs : Bytes) : (octets bs).length = 2 * bs.length := by
  induction bs with
  | nil => rfl
  | cons b bs ih =>
      show (octets bs).length + 1 + 1 = 2 * (bs.length + 1)
      omega

theorem valueAt_digit {n : Nat} (h : n < 16) (position : Nat) :
    valueAt position (.ofNat (digit n).toNat) = .ok n := by
  rw [valueAt, value?_digit h]

theorem decodeFrom_octets (position : Nat) (bs : Bytes) :
    decodeFrom position (octets bs) = .ok bs := by
  induction bs generalizing position with
  | nil => rfl
  | cons b bs ih =>
      have hb : b.toNat < 256 := b.toNat_lt
      have hjoin : 16 * (b.toNat / 16) + b.toNat % 16 = b.toNat := by omega
      show decodeFrom position (_ :: _ :: octets bs) = _
      rw [decodeFrom, valueAt_digit (by omega), valueAt_digit (by omega), ih]
      show Except.ok (UInt8.ofNat (16 * (b.toNat / 16) + b.toNat % 16) :: bs) = _
      rw [hjoin, UInt8.ofNat_toNat]

/-- **A byte string is read back from its digits.** -/
theorem decode_encode (bs : Bytes) : decode (Bytes.ofString (encode bs)) = .ok bs := by
  rw [ofString_encode]
  exact decodeFrom_octets 0 bs

end Hex

namespace ObjectId

theorem length_toHex (id : ObjectId) : (Bytes.ofString id.toHex).length = 24 := by
  rw [toHex, Hex.ofString_encode, Hex.length_octets, id.length_bytes]

theorem parse_toHex (id : ObjectId) : parse id.toHex = .ok id := by
  have hbytes : ofBytes? id.bytes = some id := dif_pos id.length_bytes
  simp only [parse]
  rw [if_neg (by simp [length_toHex]), toHex, Hex.decode_encode]
  simp only [hbytes]

/-- **An id is read back from a payload**, the zero id included: it is not written as the empty
text. -/
theorem parsePayload_toHex (id : ObjectId) : parsePayload id.toHex = .ok id := by
  have hne : id.toHex ≠ "" := by
    intro h
    have hlen := length_toHex id
    rw [h] at hlen
    cases hlen
  rw [parsePayload, if_neg hne, parse_toHex]

end ObjectId
end ControlPlane
