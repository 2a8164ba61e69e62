/-
Numbers as bytes, least significant byte first, the reading of an unsigned number
of a given number of bits as a signed one, and the bit fields of a payload.

Bit 0 is the least significant bit of the first byte. Bits past the end of the
payload are zero, and a field that is empty or wider than 32 bits reads as zero.
-/

import HidBridge.Limits

namespace HidBridge

namespace Words

def ofBytes : List UInt8 → Nat
  | [] => 0
  | byte :: rest => byte.toNat + 256 * ofBytes rest

def toBytes : (count number : Nat) → List UInt8
  | 0, _ => []
  | count + 1, number => UInt8.ofNat (number % 256) :: toBytes count (number / 256)

/-- The number whose last `bits` bits in two's complement are `number`. -/
def signed (bits number : Nat) : Int :=
  if 2 * number < 1 <<< bits then number else (number : Int) - (1 <<< bits : Nat)

def unsigned (bits : Nat) (number : Int) : Nat := (number % (1 <<< bits : Nat)).toNat

theorem length_toBytes (count number : Nat) : (toBytes count number).length = count := by
  induction count generalizing number with
  | zero => rfl
  | succ count ih => simp only [toBytes, List.length_cons, ih]

theorem ofBytes_lt (bytes : List UInt8) : ofBytes bytes < Nat.pow 256 bytes.length := by
  induction bytes with
  | nil => exact Nat.one_pos
  | cons byte rest ih =>
      have small : byte.toNat < 256 := byte.toNat_lt
      rw [Nat.pow_eq] at ih ⊢
      rw [ofBytes, List.length_cons, Nat.pow_succ]
      omega

theorem ofBytes_toBytes (count number : Nat) :
    ofBytes (toBytes count number) = number % Nat.pow 256 count := by
  induction count generalizing number with
  | zero => exact (Nat.mod_one number).symm
  | succ count ih =>
      have byte : (UInt8.ofNat (number % 256)).toNat = number % 256 :=
        Nat.mod_eq_of_lt (Nat.mod_lt number (by decide))
      rw [toBytes, ofBytes, ih, byte, Nat.pow_eq, Nat.pow_eq, Nat.pow_succ', Nat.mod_mul]

theorem toBytes_ofBytes (bytes : List UInt8) : toBytes bytes.length (ofBytes bytes) = bytes := by
  induction bytes with
  | nil => rfl
  | cons byte rest ih =>
      have small : byte.toNat < 256 := byte.toNat_lt
      have first : (byte.toNat + 256 * ofBytes rest) % 256 = byte.toNat := by omega
      have others : (byte.toNat + 256 * ofBytes rest) / 256 = ofBytes rest := by omega
      rw [List.length_cons, ofBytes, toBytes, first, others, ih, UInt8.ofNat_toNat]

end Words

namespace Bits

/-- The number held by `width` bits, the first of them `skipped` bits into the
first byte, where `skipped` is less than eight. -/
def gather : (bytes : List UInt8) → (skipped width : Nat) → Nat
  | [], _, _ => 0
  | byte :: rest, skipped, width =>
    if width = 0 then 0
    else
      let taken := min (8 - skipped) width
      byte.toNat / 2 ^ skipped % 2 ^ taken + 2 ^ taken * gather rest 0 (width - taken)

def unsigned (payload : List UInt8) (offset width : Nat) : Nat :=
  if width = 0 ∨ Limits.readableBits < width then 0
  else gather (payload.drop (offset / 8)) (offset % 8) width

/-- A field as a signed number. Only the width decides which bit is the sign, so
a single set bit reads as minus one. -/
def signed (payload : List UInt8) (offset width : Nat) : Int :=
  Words.signed width (unsigned payload offset width)

end Bits

end HidBridge
