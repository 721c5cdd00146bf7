import Mathlib.Data.Nat.Bitwise
/-
**Reading the fields of a received IGMP or MLD message.**

The handlers of the IGMP and MLD subsystems read their messages through packed structures
(`protocols.h`) laid over the received bytes: single bytes, 16-bit fields in network byte order
(`ntohs`), addresses of 4 or 16 bytes, and the 3-bit QRV and 1-bit S flag of a query.  An
address is read as the number its bytes spell in network byte order, so that `memcmp` on
addresses (`MCB_IP4_ADDR_CMP`, `MCB_IP6_ADDR_CMP`) is the order of numbers.  The
floating-point time codes of IGMPv3 and MLDv2 are decoded by `timecode_8bit_decode` and
`timecode_16bit_decode`.

Main definitions:

* `McastBridge.rd8`, `McastBridge.rd16`, `McastBridge.rdAddr` — reading a byte, a 16-bit
  field and an address at an offset;
* `McastBridge.timecode8bitDecode`, `McastBridge.timecode16bitDecode` — the time codes;
* `McastBridge.u32` — the value of an `unsigned int` computation.

Main results:

* `McastBridge.timecode8bitDecode_le`, `McastBridge.timecode16bitDecode_le` — the largest
  values the time codes decode to, 31744 and 8 387 584.
-/

set_option relaxedAutoImplicit false
set_option autoImplicit false

namespace McastBridge

/-- The byte at offset `off` (a missing byte reads as zero). -/
def rd8 (buf : List UInt8) (off : Nat) : Nat := (buf.getD off 0).toNat

/-- The 16-bit field at offset `off`, converted by `ntohs`. -/
def rd16 (buf : List UInt8) (off : Nat) : Nat := rd8 buf off * 256 + rd8 buf (off + 1)

/-- The `len`-byte address at offset `off`, in network byte order. -/
def rdAddr (buf : List UInt8) (off len : Nat) : Nat :=
  ((buf.drop off).take len).foldl (fun a b => a * 256 + b.toNat) 0

/-- An `unsigned int` result: arithmetic modulo `2 ^ 32`. -/
def u32 (x : Nat) : Nat := x % 2 ^ 32

/-- `timecode_8bit_decode` (IGMPv3 Max Response Code and QQIC, MLDv2 QQIC). -/
def timecode8bitDecode (code : Nat) : Nat :=
  if code < 128 then code
  else ((code &&& 0x0f) ||| 0x10) <<< (((code >>> 4) &&& 0x07) + 3)

/-- `timecode_16bit_decode` (MLDv2 Maximum Response Code). -/
def timecode16bitDecode (code : Nat) : Nat :=
  if code < 32768 then code
  else ((code &&& 0x0fff) ||| 0x1000) <<< (((code >>> 12) &&& 0x07) + 3)

/-- The largest value an 8-bit time code decodes to: mantissa `0x1f`, exponent `7`. -/
theorem timecode8bitDecode_le (code : Nat) : timecode8bitDecode code ≤ 31744 := by
  unfold timecode8bitDecode
  split
  · omega
  · have hm : (code &&& 0x0f) ||| 0x10 < 2 ^ 5 :=
      Nat.or_lt_two_pow (Nat.lt_of_le_of_lt Nat.and_le_right (by decide)) (by decide)
    have he : ((code >>> 4) &&& 0x07) + 3 ≤ 10 := by
      have := @Nat.and_le_right (code >>> 4) 0x07; omega
    calc ((code &&& 0x0f) ||| 0x10) <<< (((code >>> 4) &&& 0x07) + 3)
        ≤ 31 * 2 ^ 10 := by
          rw [Nat.shiftLeft_eq]
          exact Nat.mul_le_mul (by omega) (Nat.pow_le_pow_right (by decide) he)
      _ = 31744 := by decide

example : timecode8bitDecode 0xff = 31744 := by decide

/-- The largest value a 16-bit time code decodes to: mantissa `0x1fff`, exponent `7`. -/
theorem timecode16bitDecode_le (code : Nat) : timecode16bitDecode code ≤ 8387584 := by
  unfold timecode16bitDecode
  split
  · omega
  · have hm : (code &&& 0x0fff) ||| 0x1000 < 2 ^ 13 :=
      Nat.or_lt_two_pow (Nat.lt_of_le_of_lt Nat.and_le_right (by decide)) (by decide)
    have he : ((code >>> 12) &&& 0x07) + 3 ≤ 10 := by
      have := @Nat.and_le_right (code >>> 12) 0x07; omega
    calc ((code &&& 0x0fff) ||| 0x1000) <<< (((code >>> 12) &&& 0x07) + 3)
        ≤ 8191 * 2 ^ 10 := by
          rw [Nat.shiftLeft_eq]
          exact Nat.mul_le_mul (by omega) (Nat.pow_le_pow_right (by decide) he)
      _ = 8387584 := by decide

example : timecode16bitDecode 0xffff = 8387584 := by decide

end McastBridge
