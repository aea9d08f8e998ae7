import Mathlib.Algebra.Ring.Nat

/-!
# Length-prefixed framing

A frame is the length of its payload as four bytes, the most significant one first, and
the payload.  The reader refuses a length above its cap before it reads on.
-/

namespace PanicMonitr
namespace Wire

/-- `struct.pack(">I", n)`; `none` is its `struct.error`. -/
def packLength (n : Nat) : Option (List UInt8) :=
  if n < 2 ^ 32 then
    some [UInt8.ofNat (n / 2 ^ 24), UInt8.ofNat (n / 2 ^ 16), UInt8.ofNat (n / 2 ^ 8),
      UInt8.ofNat n]
  else none

/-- `struct.unpack(">I", header)` -/
def unpackLength (a b c d : UInt8) : Nat :=
  a.toNat * 2 ^ 24 + b.toNat * 2 ^ 16 + c.toNat * 2 ^ 8 + d.toNat

/-- The bytes `_write_framed` writes. -/
def writeFramed (payload : List UInt8) : Option (List UInt8) :=
  (packLength payload.length).map (fun header => header ++ payload)

/-- What `_read_framed` raises: the stream ends early, or the length is above the cap. -/
inductive ReadError where
  | streamEnded
  | tooLarge (length max : Nat)
  deriving DecidableEq

/-- `_read_framed(recv_stream, max_size)`: the payload, and what is left of the stream. -/
def readFramed (max : Nat) : List UInt8 -> Except ReadError (List UInt8 × List UInt8)
  | a :: b :: c :: d :: rest =>
      let length := unpackLength a b c d
      if max < length then Except.error (ReadError.tooLarge length max)
      else if length = 0 then Except.ok ([], rest)
      else if rest.length < length then Except.error ReadError.streamEnded
      else Except.ok (rest.take length, rest.drop length)
  | _ => Except.error ReadError.streamEnded

theorem unpackLength_pack {n : Nat} (h : n < 2 ^ 32) :
    unpackLength (UInt8.ofNat (n / 2 ^ 24)) (UInt8.ofNat (n / 2 ^ 16))
      (UInt8.ofNat (n / 2 ^ 8)) (UInt8.ofNat n) = n := by
  unfold unpackLength
  simp only [UInt8.toNat_ofNat']
  omega

/-- A payload is read back, with what follows it, unless its length is above the cap. -/
theorem readFramed_writeFramed (max : Nat) {payload framed : List UInt8}
    (h : writeFramed payload = some framed) (rest : List UInt8) :
    readFramed max (framed ++ rest) =
      if payload.length <= max then Except.ok (payload, rest)
      else Except.error (ReadError.tooLarge payload.length max) := by
  unfold writeFramed packLength at h
  split at h
  · rename_i hlt
    cases h
    simp only [List.cons_append, List.nil_append, readFramed, unpackLength_pack hlt]
    by_cases hfits : payload.length <= max
    · rw [if_neg (Nat.not_lt.mpr hfits), if_pos hfits]
      split
      · rename_i hempty
        rw [List.length_eq_zero_iff.mp hempty]
        rfl
      · rw [if_neg (by rw [List.length_append]; omega), List.take_left, List.drop_left]
    · rw [if_pos (Nat.lt_of_not_le hfits), if_neg hfits]
  · cases h

theorem writeFramed_length {payload framed : List UInt8} (h : writeFramed payload = some framed) :
    framed.length = 4 + payload.length := by
  unfold writeFramed packLength at h
  split at h
  · cases h
    rw [List.length_append]
    rfl
  · cases h

end Wire
end PanicMonitr
