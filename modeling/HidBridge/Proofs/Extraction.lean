/-
A field of a payload as arithmetic. The payload is one number, least significant byte first.
A field is the part of that number from the field's first bit on, and its sign is its own
topmost bit. So a number that was written bit by bit is read back, wherever it was written.
-/

import HidBridge.Proofs.Bits

namespace HidBridge.Bits

/-- Adds one bit to a payload. A bit that is set stays set, and past the end of the payload
there is nothing to add to. -/
def put (payload : List UInt8) (position : Nat) (bit : Bool) : List UInt8 :=
  payload.modify (position / 8)
    (fun byte => byte ||| UInt8.ofNat (bit.toNat <<< (position % 8)))

/-- Adds the last `width` bits of a number to a payload, least significant first. -/
def write (payload : List UInt8) (offset width number : Nat) : List UInt8 :=
  (List.range width).foldl
    (fun written index => put written (offset + index) (number.testBit index)) payload

theorem length_put (payload : List UInt8) (position : Nat) (bit : Bool) :
    (put payload position bit).length = payload.length :=
  List.length_modify _ _ _

theorem write_succ (payload : List UInt8) (offset width number : Nat) :
    write payload offset (width + 1) number =
      put (write payload offset width number) (offset + width) (number.testBit width) := by
  unfold write
  rw [List.range_succ, List.foldl_append, List.foldl_cons, List.foldl_nil]

theorem length_write (payload : List UInt8) (offset width number : Nat) :
    (write payload offset width number).length = payload.length := by
  induction width with
  | zero => rfl
  | succ width ih => rw [write_succ, length_put, ih]

theorem testBit_or_bit (byte : UInt8) (bit : Bool) (skipped : Nat) {index : Nat}
    (inside : index < 8) :
    (byte ||| UInt8.ofNat (bit.toNat <<< skipped)).toNat.testBit index =
      (byte.toNat.testBit index || (bit && decide (skipped = index))) := by
  have added : (UInt8.ofNat (bit.toNat <<< skipped)).toNat = bit.toNat <<< skipped % 2 ^ 8 := rfl
  rw [UInt8.toNat_or, Nat.testBit_or, added, Nat.testBit_mod_two_pow, decide_eq_true inside,
    Bool.true_and]
  cases bit with
  | false => rw [Bool.toNat_false, Nat.zero_shiftLeft, Nat.zero_testBit, Bool.false_and]
  | true => rw [Bool.toNat_true, Nat.one_shiftLeft, Nat.testBit_two_pow, Bool.true_and]

theorem ofBytes_put {payload : List UInt8} {position : Nat}
    (inside : position < 8 * payload.length) (bit : Bool) :
    Words.ofBytes (put payload position bit) =
      Words.ofBytes payload ||| (if bit then 1 <<< position else 0) := by
  refine Nat.eq_of_testBit_eq ?_
  intro other
  have added : (if bit then 1 <<< position else 0).testBit other =
      (bit && decide (position = other)) := by
    cases bit with
    | false => exact Nat.zero_testBit other
    | true => rw [if_pos rfl, Nat.one_shiftLeft, Nat.testBit_two_pow, Bool.true_and]
  rw [Nat.testBit_or, Words.testBit_ofBytes, Words.testBit_ofBytes, added, put,
    List.getElem?_modify, Option.map_eq_map]
  by_cases same : position / 8 = other / 8
  · have within : other / 8 < payload.length := by omega
    have index : other % 8 < 8 := Nat.mod_lt other (Nat.succ_pos 7)
    have place : position % 8 = other % 8 ↔ position = other := by omega
    rw [List.getElem?_eq_getElem within, Option.map_some, if_pos same, Option.getD_some,
      Option.getD_some, testBit_or_bit _ bit _ index]
    simp only [place]
  · have elsewhere : position ≠ other := by
      intro equal
      exact same (congrArg (fun place => place / 8) equal)
    rw [decide_eq_false elsewhere, Bool.and_false, Bool.or_false]
    simp only [if_neg same, Option.map_id_fun', id_eq]

theorem ofBytes_write {payload : List UInt8} {offset width : Nat}
    (inside : offset + width ≤ 8 * payload.length) (number : Nat) :
    Words.ofBytes (write payload offset width number) =
      Words.ofBytes payload ||| (number % 2 ^ width) <<< offset := by
  induction width with
  | zero => rw [Nat.pow_zero, Nat.mod_one, Nat.zero_shiftLeft, Nat.or_zero]; rfl
  | succ width ih =>
      have room : offset + width < 8 * (write payload offset width number).length := by
        rw [length_write]
        exact inside
      have shifted : (if number.testBit width then 1 <<< (offset + width) else 0) =
          (if number.testBit width then 1 <<< width else 0) <<< offset := by
        rw [Nat.add_comm, Nat.shiftLeft_add]
        split
        · rfl
        · exact (Nat.zero_shiftLeft offset).symm
      rw [write_succ, ofBytes_put room, ih (Nat.le_of_succ_le inside), shifted, Nat.or_assoc,
        ← Nat.shiftLeft_or_distrib, mod_or_bit]

/-- A number that was written where no bit was set is read there. -/
theorem unsigned_write {payload : List UInt8} {offset width : Nat}
    (readable : width ≤ Limits.readableBits) (inside : offset + width ≤ 8 * payload.length)
    (clear : ∀ position, offset ≤ position → position < offset + width →
      (Words.ofBytes payload).testBit position = false) (number : Nat) :
    unsigned (write payload offset width number) offset width = number % 2 ^ width := by
  have nothing : Words.ofBytes payload >>> offset % 2 ^ width = 0 := by
    refine Nat.eq_of_testBit_eq ?_
    intro index
    rw [Nat.testBit_mod_two_pow, Nat.testBit_shiftRight, Nat.zero_testBit]
    by_cases among : index < width
    · rw [clear (offset + index) (Nat.le_add_right _ _) (Nat.add_lt_add_left among offset),
        Bool.and_false]
    · rw [decide_eq_false among, Bool.false_and]
  rw [unsigned_eq _ offset readable, ofBytes_write inside, ← Nat.shiftRight_eq_div_pow,
    Nat.shiftRight_or_distrib, Nat.shiftLeft_shiftRight, Nat.or_mod_two_pow, nothing,
    Nat.zero_or, Nat.mod_mod]

theorem signed_eq_toInt (payload : List UInt8) (offset : Nat) {width : Nat}
    (readable : width ≤ Limits.readableBits) :
    signed payload offset width =
      (BitVec.ofNat width (Words.ofBytes payload / 2 ^ offset)).toInt := by
  rw [signed, unsigned_eq payload offset readable, Words.signed, Nat.one_shiftLeft,
    BitVec.toInt_eq_toNat_cond, BitVec.toNat_ofNat]

/-- Reading is arithmetic on the number that the payload stands for, whatever the payload, the
offset and the width: without a sign, a field is the number's part from the offset on, and with a
sign the same part in two's complement. Fields that are empty or too wide are zero. So a number
that fits the width comes back, if it was written bit by bit within the payload and no bit was
set there before. -/
theorem reads_number (payload : List UInt8) (offset width : Nat) :
    (1 ≤ width → width ≤ Limits.readableBits →
      unsigned payload offset width = Words.ofBytes payload / 2 ^ offset % 2 ^ width ∧
        signed payload offset width =
          (BitVec.ofNat width (Words.ofBytes payload / 2 ^ offset)).toInt) ∧
      (width = 0 ∨ Limits.readableBits < width →
        unsigned payload offset width = 0 ∧ signed payload offset width = 0) ∧
      ∀ number : Int, 1 ≤ width → width ≤ Limits.readableBits →
        -2 ^ (width - 1) ≤ number → number < 2 ^ (width - 1) →
        offset + width ≤ 8 * payload.length →
        (∀ position, offset ≤ position → position < offset + width →
          (Words.ofBytes payload).testBit position = false) →
        signed (write payload offset width (Words.unsigned width number)) offset width =
          number := by
  refine ⟨?_, ?_, ?_⟩
  · intro _some readable
    exact ⟨unsigned_eq payload offset readable, signed_eq_toInt payload offset readable⟩
  · intro unread
    have nothing : unsigned payload offset width = 0 := if_pos unread
    refine ⟨nothing, ?_⟩
    rw [signed, nothing]
    exact (Words.signed_eq_zero_iff (Nat.two_pow_pos width)).mpr rfl
  · intro number positive readable low high inside clear
    have double : (2 : Int) ^ width = 2 * 2 ^ (width - 1) := by
      rw [← Int.pow_succ', Nat.sub_add_cancel positive]
    rw [signed, unsigned_write readable inside clear,
      Nat.mod_eq_of_lt (Words.unsigned_lt width number)]
    refine Words.signed_unsigned ?_ ?_ <;> push_cast <;> omega

/-- Twelve bits that begin in the second byte, in two bytes that hold other bits besides. -/
theorem reads_number_across :
    let payload : List UInt8 := [0x23, 0x01, 0x00]
    unsigned payload 4 12 = 0x12 ∧
      signed (write payload 12 12 (Words.unsigned 12 (-2))) 12 12 = -2 ∧
      unsigned payload 0 33 = 0 := by
  intro payload
  have first := (reads_number payload 4 12).1 (by decide) (by decide)
  have second := (reads_number payload 12 12).2.2 (-2) (by decide) (by decide) (by decide)
    (by decide) (by decide)
  have wide := (reads_number payload 0 33).2.1 (Or.inr (by decide))
  have clear : ∀ position, position < 12 + 12 → 12 ≤ position →
      (Words.ofBytes payload).testBit position = false := by decide
  exact ⟨first.1.trans (by decide),
    second (fun position low high => clear position high low), wide.1⟩

end HidBridge.Bits
