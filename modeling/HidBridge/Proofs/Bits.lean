/-
Reading numbers back that were written to a payload. At whole bytes a field holds
what the bytes stand for, a single bit is read as set or not, and a number in
two's complement comes back if it fits the width.
-/

import HidBridge.Bits
import Mathlib.Data.Nat.Bitwise

namespace HidBridge

namespace Words

theorem unsigned_lt (bits : Nat) (number : Int) : unsigned bits number < 2 ^ bits := by
  have positive : (0 : Int) < ((1 <<< bits : Nat) : Int) := by
    rw [Nat.one_shiftLeft]
    exact Int.natCast_pos.mpr (Nat.two_pow_pos bits)
  have small := Int.emod_lt_of_pos number positive
  have natural := Int.emod_nonneg number (Int.ne_of_gt positive)
  rw [Nat.one_shiftLeft] at small natural
  rw [unsigned, Nat.one_shiftLeft]
  omega

theorem signed_unsigned {bits : Nat} {number : Int} (low : -(2 ^ bits : Nat) ≤ 2 * number)
    (high : 2 * number < (2 ^ bits : Nat)) : signed bits (unsigned bits number) = number := by
  unfold signed unsigned
  rw [Nat.one_shiftLeft]
  rcases Int.lt_or_le number 0 with negative | natural
  · have wrapped : number % ((2 ^ bits : Nat) : Int) = number + (2 ^ bits : Nat) := by
      rw [← Int.add_emod_right]
      exact Int.emod_eq_of_lt (by omega) (by omega)
    rw [wrapped, if_neg (by omega)]
    omega
  · have same : number % ((2 ^ bits : Nat) : Int) = number :=
      Int.emod_eq_of_lt natural (by omega)
    rw [same, if_pos (by omega)]
    omega

theorem toBytes_one (number : Nat) : toBytes 1 number = [UInt8.ofNat number] := by
  have byte : UInt8.ofNat (number % 256) = UInt8.ofNat number :=
    UInt8.toNat_inj.mp (Nat.mod_mod number 256)
  rw [toBytes, byte, toBytes]

theorem ofBytes_cons_div (byte : UInt8) (rest : List UInt8) :
    ofBytes (byte :: rest) / 256 = ofBytes rest := by
  have small : byte.toNat < 256 := byte.toNat_lt
  rw [ofBytes]
  omega

theorem ofBytes_lt_two_pow (bytes : List UInt8) : ofBytes bytes < 2 ^ (8 * bytes.length) := by
  have bound := ofBytes_lt bytes
  rw [Nat.pow_mul]
  exact bound

theorem ofBytes_drop (bytes : List UInt8) (count : Nat) :
    ofBytes (bytes.drop count) = ofBytes bytes / 2 ^ (8 * count) := by
  induction count generalizing bytes with
  | zero => exact (Nat.div_one _).symm
  | succ count ih =>
      cases bytes with
      | nil => exact (Nat.zero_div _).symm
      | cons byte rest =>
          rw [List.drop_succ_cons, ih, Nat.mul_succ, Nat.add_comm, Nat.pow_add,
            ← Nat.div_div_eq_div_mul, ofBytes_cons_div]

theorem ofBytes_take (bytes : List UInt8) (count : Nat) :
    ofBytes (bytes.take count) = ofBytes bytes % 2 ^ (8 * count) := by
  induction count generalizing bytes with
  | zero => exact (Nat.mod_one _).symm
  | succ count ih =>
      cases bytes with
      | nil => exact (Nat.zero_mod _).symm
      | cons byte rest =>
          have small : byte.toNat < 256 := byte.toNat_lt
          have first : ofBytes (byte :: rest) % 2 ^ 8 = byte.toNat := by
            rw [ofBytes]
            omega
          rw [List.take_succ_cons, ofBytes, ih, Nat.mul_succ, Nat.add_comm (8 * count), Nat.pow_add,
            Nat.mod_mul, first, ofBytes_cons_div]

theorem testBit_ofBytes (bytes : List UInt8) (position : Nat) :
    (ofBytes bytes).testBit position =
      (bytes[position / 8]?.getD 0).toNat.testBit (position % 8) := by
  have byte : (ofBytes (bytes.drop (position / 8))).testBit (position % 8) =
      (bytes[position / 8]?.getD 0).toNat.testBit (position % 8) := by
    cases found : bytes[position / 8]? with
    | none =>
        rw [List.drop_eq_nil_of_le (List.getElem?_eq_none_iff.mp found)]
        rfl
    | some byte =>
        obtain ⟨within, same⟩ := List.getElem?_eq_some_iff.mp found
        have first : ofBytes (bytes.drop (position / 8)) =
            2 ^ 8 * ofBytes (bytes.drop (position / 8 + 1)) + byte.toNat := by
          rw [List.drop_eq_getElem_cons within, same, ofBytes]
          exact Nat.add_comm _ _
        rw [first, Nat.testBit_two_pow_mul_add _ byte.toNat_lt,
          if_pos (Nat.mod_lt position (Nat.succ_pos 7)), Option.getD_some]
  rw [← byte, ofBytes_drop, Nat.testBit_div_two_pow, Nat.add_comm, Nat.div_add_mod]

theorem signed_eq_zero_iff {bits number : Nat} (small : number < 2 ^ bits) :
    signed bits number = 0 ↔ number = 0 := by
  unfold signed
  rw [Nat.one_shiftLeft]
  split <;> omega

theorem mod_ne_zero_iff (number size count : Nat) :
    number % 2 ^ (size * count) ≠ 0 ↔
      ∃ digit, digit < count ∧ number / 2 ^ (digit * size) % 2 ^ size ≠ 0 := by
  induction count with
  | zero =>
      rw [Nat.mul_zero, Nat.pow_zero, Nat.mod_one]
      exact iff_of_false (fun nonzero => nonzero rfl) (fun ⟨_digit, among, _set⟩ => nomatch among)
  | succ count ih =>
      have lower : number % 2 ^ (size * (count + 1)) ≠ 0 ↔
          number % 2 ^ (size * count) ≠ 0 ∨ number / 2 ^ (count * size) % 2 ^ size ≠ 0 := by
        have positive : 2 ^ (size * count) ≠ 0 := Nat.ne_of_gt (Nat.two_pow_pos _)
        rw [Nat.mul_succ, Nat.pow_add, Nat.mod_mul, Nat.mul_comm count size, Ne,
          Nat.add_eq_zero_iff, Nat.mul_eq_zero, not_and_or, not_or, and_iff_right positive]
      rw [lower, ih]
      constructor
      · intro either
        rcases either with ⟨digit, among, set⟩ | last
        · exact ⟨digit, Nat.lt_succ_of_lt among, set⟩
        · exact ⟨count, Nat.lt_succ_self count, last⟩
      · intro ⟨digit, among, set⟩
        rcases Nat.lt_or_eq_of_le (Nat.le_of_lt_succ among) with earlier | last
        · exact Or.inl ⟨digit, earlier, set⟩
        · rw [last] at set
          exact Or.inr set

end Words

namespace Bits

theorem gather_cons (byte : UInt8) (rest : List UInt8) (skipped width : Nat) :
    gather (byte :: rest) skipped width =
      if width = 0 then 0
      else
        byte.toNat / 2 ^ skipped % 2 ^ min (8 - skipped) width +
          2 ^ min (8 - skipped) width * gather rest 0 (width - min (8 - skipped) width) :=
  rfl

/-- The bits gathered are those of the number that the bytes stand for. -/
theorem gather_eq (bytes : List UInt8) {skipped : Nat} (inside : skipped < 8) (width : Nat) :
    gather bytes skipped width = Words.ofBytes bytes / 2 ^ skipped % 2 ^ width := by
  induction bytes generalizing skipped width with
  | nil =>
      rw [Words.ofBytes, Nat.zero_div, Nat.zero_mod]
      rfl
  | cons byte rest ih =>
      rw [gather_cons]
      split
      · rename_i nothing
        rw [nothing, Nat.pow_zero, Nat.mod_one]
      · have later := ih (Nat.succ_pos 7) (width - min (8 - skipped) width)
        have byteBits : 256 = 2 ^ skipped * 2 ^ (8 - skipped) := by
          rw [← Nat.pow_add, Nat.add_sub_cancel' (Nat.le_of_lt inside)]
        have shifted : Words.ofBytes (byte :: rest) / 2 ^ skipped =
            byte.toNat / 2 ^ skipped + 2 ^ (8 - skipped) * Words.ofBytes rest := by
          rw [Words.ofBytes, byteBits, Nat.mul_assoc,
            Nat.add_mul_div_left _ _ (Nat.two_pow_pos skipped)]
        rw [shifted, later, Nat.pow_zero, Nat.div_one]
        rcases Nat.le_total width (8 - skipped) with ends | goesOn
        · -- The field ends in this byte.
          have divides : 2 ^ width ∣ 2 ^ (8 - skipped) * Words.ofBytes rest :=
            Nat.dvd_mul_right_of_dvd (Nat.pow_dvd_pow 2 ends) _
          rw [Nat.min_eq_right ends, Nat.sub_self, Nat.pow_zero, Nat.mod_one, Nat.mul_zero,
            Nat.add_mod _ (2 ^ (8 - skipped) * _), Nat.mod_eq_zero_of_dvd divides, Nat.add_zero,
            Nat.mod_mod]
        · have small : byte.toNat / 2 ^ skipped < 2 ^ (8 - skipped) := by
            rw [Nat.div_lt_iff_lt_mul (Nat.two_pow_pos skipped), Nat.mul_comm, ← byteBits]
            exact byte.toNat_lt
          have whole : 2 ^ width = 2 ^ (8 - skipped) * 2 ^ (width - (8 - skipped)) := by
            rw [← Nat.pow_add, Nat.add_sub_cancel' goesOn]
          rw [Nat.min_eq_left goesOn, whole, Nat.mod_mul, Nat.add_mul_mod_self_left,
            Nat.add_mul_div_left _ _ (Nat.two_pow_pos _), Nat.div_eq_of_lt small, Nat.zero_add]

theorem unsigned_eq (payload : List UInt8) (offset : Nat) {width : Nat}
    (readable : width ≤ Limits.readableBits) :
    unsigned payload offset width = Words.ofBytes payload / 2 ^ offset % 2 ^ width := by
  have position : 8 * (offset / 8) + offset % 8 = offset := Nat.div_add_mod offset 8
  unfold unsigned
  split
  · rename_i unread
    have nothing : width = 0 := by omega
    rw [nothing, Nat.pow_zero, Nat.mod_one]
  · rw [gather_eq _ (Nat.mod_lt offset (Nat.succ_pos 7)), Words.ofBytes_drop,
      Nat.div_div_eq_div_mul, ← Nat.pow_add, position]

theorem unsigned_of_unreadable (payload : List UInt8) (offset : Nat) {width : Nat}
    (unreadable : Limits.readableBits < width) : unsigned payload offset width = 0 :=
  if_pos (Or.inr unreadable)

theorem unsigned_bytes (payload : List UInt8) (first count : Nat)
    (readable : 8 * count ≤ Limits.readableBits) :
    unsigned payload (8 * first) (8 * count) =
      Words.ofBytes ((payload.drop first).take count) := by
  rw [unsigned_eq payload (8 * first) readable, Words.ofBytes_take, Words.ofBytes_drop]

theorem signed_bytes {payload : List UInt8} (first count : Nat) {number : Int}
    (readable : 8 * count ≤ Limits.readableBits)
    (written : (payload.drop first).take count =
      Words.toBytes count (Words.unsigned (8 * count) number))
    (low : -(2 ^ (8 * count) : Nat) ≤ 2 * number) (high : 2 * number < (2 ^ (8 * count) : Nat)) :
    signed payload (8 * first) (8 * count) = number := by
  have small : Words.unsigned (8 * count) number < Nat.pow 256 count := by
    have bound := Words.unsigned_lt (8 * count) number
    rw [Nat.pow_mul] at bound
    exact bound
  rw [signed, unsigned_bytes payload first count readable, written, Words.ofBytes_toBytes,
    Nat.mod_eq_of_lt small]
  exact Words.signed_unsigned low high

theorem signed_ne_zero_iff (payload : List UInt8) (offset width : Nat) :
    signed payload offset width ≠ 0 ↔
      width ≤ Limits.readableBits ∧ Words.ofBytes payload / 2 ^ offset % 2 ^ width ≠ 0 := by
  by_cases readable : width ≤ Limits.readableBits
  · rw [and_iff_right readable, signed, unsigned_eq payload offset readable]
    exact not_congr (Words.signed_eq_zero_iff (Nat.mod_lt _ (Nat.two_pow_pos width)))
  · have nothing : signed payload offset width = 0 := by
      rw [signed, unsigned_of_unreadable payload offset (Nat.lt_of_not_le readable)]
      exact (Words.signed_eq_zero_iff (Nat.two_pow_pos width)).mpr rfl
    exact iff_of_false (fun nonzero => nonzero nothing) (fun both => readable both.1)

theorem signed_bit_ne_zero {payload : List UInt8} {first bit : Nat} {byte : UInt8}
    (found : payload[first]? = some byte) (inside : bit < 8) :
    signed payload (8 * first + bit) 1 ≠ 0 ↔ byte.toNat.testBit bit = true := by
  have start : (8 * first + bit) / 8 = first := by omega
  have skipped : (8 * first + bit) % 8 = bit := by omega
  have set := Words.testBit_ofBytes payload (8 * first + bit)
  rw [start, skipped, found, Option.getD_some] at set
  rw [signed_ne_zero_iff, and_iff_right (by decide), ← set, Nat.testBit_eq_decide_div_mod_eq,
    decide_eq_true_iff, Nat.pow_one]
  omega

theorem mod_or_bit (number count : Nat) :
    number % 2 ^ count ||| (if number.testBit count then 1 <<< count else 0) =
      number % 2 ^ (count + 1) := by
  have small : number % 2 ^ count < 2 ^ count := Nat.mod_lt _ (Nat.two_pow_pos count)
  have next : (if number.testBit count then 1 <<< count else 0) =
      2 ^ count * (number / 2 ^ count % 2) := by
    rw [Nat.one_shiftLeft, Nat.testBit_eq_decide_div_mod_eq]
    rcases Nat.mod_two_eq_zero_or_one (number / 2 ^ count) with clear | set
    · rw [clear]
      rfl
    · rw [set, Nat.mul_one]
      rfl
  rw [next, Nat.lor_comm, ← Nat.two_pow_add_eq_or_of_lt small, Nat.mod_pow_succ, Nat.add_comm]

/-- Taking usages in one after another, one for each bit that is set, adds the
lowest bits of a number, if taking in one usage sets its bit. -/
theorem foldl_bits {State : Type} (take : State → Nat → State) (usage : Nat → Nat)
    (withBits : Nat → State) (number : Nat) {count : Nat}
    (one : ∀ bits bit, bit < count →
      take (withBits bits) (usage bit) = withBits (bits ||| 1 <<< bit)) (bits : Nat) :
    ((List.range count).flatMap
        (fun bit => if number.testBit bit then [usage bit] else [])).foldl take (withBits bits) =
      withBits (bits ||| number % 2 ^ count) := by
  induction count with
  | zero => rw [Nat.pow_zero, Nat.mod_one, Nat.or_zero]; rfl
  | succ count ih =>
      have earlier := ih (fun bits bit inside => one bits bit (Nat.lt_succ_of_lt inside))
      rw [List.range_succ, List.flatMap_append, List.foldl_append, earlier, ← mod_or_bit,
        ← Nat.or_assoc, List.flatMap_singleton]
      cases number.testBit count with
      | false => rw [if_neg Bool.false_ne_true, if_neg Bool.false_ne_true, Nat.or_zero]; rfl
      | true =>
          rw [if_pos rfl, if_pos rfl]
          exact one _ count (Nat.lt_succ_self count)

end Bits

end HidBridge
