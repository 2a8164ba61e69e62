/-
Two payloads of one report that hold the same bits in all fields of data give the same output.
What stands in padding, in bits that no field has, behind the last field or behind the report
makes no difference, and a payload that ends early counts as if zeros followed.
-/

import HidBridge.Proofs.Conversion.Elements
import Mathlib.Data.List.Pairwise

namespace HidBridge

namespace Bits

/-- One bit of a payload. Past its end all bits are zero. -/
def bit (payload : List UInt8) (position : Nat) : Bool :=
  (payload[position / 8]?.getD 0).toNat.testBit (position % 8)

theorem bit_append_zeros (payload : List UInt8) (count position : Nat) :
    bit (payload ++ List.replicate count 0) position = bit payload position := by
  have byte : (payload ++ List.replicate count 0)[position / 8]?.getD 0 =
      payload[position / 8]?.getD 0 := by
    by_cases within : position / 8 < payload.length
    · rw [List.getElem?_append_left within]
    · have beyond := Nat.le_of_not_lt within
      rw [List.getElem?_append_right beyond, List.getElem?_eq_none beyond,
        List.getElem?_replicate]
      split <;> rfl
  rw [bit, byte, bit]

theorem bit_take (payload : List UInt8) {count position : Nat} (inside : position < 8 * count) :
    bit (payload.take count) position = bit payload position := by
  rw [bit, List.getElem?_take_of_lt (by omega), bit]

theorem unsigned_congr {first second : List UInt8} {offset width : Nat}
    (same : ∀ position, offset ≤ position → position < offset + width →
      bit first position = bit second position) :
    unsigned first offset width = unsigned second offset width := by
  by_cases readable : width ≤ Limits.readableBits
  · rw [unsigned_eq first offset readable, unsigned_eq second offset readable]
    refine Nat.eq_of_testBit_eq ?_
    intro index
    rw [Nat.testBit_mod_two_pow, Nat.testBit_mod_two_pow, Nat.testBit_div_two_pow,
      Nat.testBit_div_two_pow, Words.testBit_ofBytes, Words.testBit_ofBytes]
    by_cases inside : index < width
    · exact congrArg _ (same (index + offset) (Nat.le_add_left offset index) (by omega))
    · rw [decide_eq_false inside, Bool.false_and, Bool.false_and]
  · have unreadable := Nat.lt_of_not_le readable
    rw [unsigned_of_unreadable first offset unreadable,
      unsigned_of_unreadable second offset unreadable]

end Bits

namespace Field

def HasBit (field : Field) (position : Nat) : Prop :=
  field.offset ≤ position ∧ position < field.offset + field.width

def Apart (left right : Field) : Prop :=
  left.offset + left.width ≤ right.offset ∨ right.offset + right.width ≤ left.offset

instance : Std.Symm Apart := ⟨fun _left _right either => either.symm⟩

def SameIn (field : Field) (first second : List UInt8) : Prop :=
  ∀ position, field.HasBit position → Bits.bit first position = Bits.bit second position

instance (field : Field) (first second : List UInt8) : Decidable (field.SameIn first second) :=
  decidable_of_iff
    (∀ index, index < field.width →
      Bits.bit first (field.offset + index) = Bits.bit second (field.offset + index))
    ⟨fun same position has => by
        have index := same (position - field.offset) (Nat.sub_lt_left_of_lt_add has.1 has.2)
        rw [Nat.add_sub_cancel' has.1] at index
        exact index,
      fun same index inside =>
        same (field.offset + index) ⟨Nat.le_add_right _ _, Nat.add_lt_add_left inside _⟩⟩

variable {field : Field} {first second : List UInt8}

theorem SameIn.sample (same : field.SameIn first second) :
    field.sample first = field.sample second := by
  have value : Bits.signed first field.offset field.width =
      Bits.signed second field.offset field.width :=
    congrArg (Words.signed field.width)
      (Bits.unsigned_congr (fun position low high => same position ⟨low, high⟩))
  rw [Field.sample, value, Field.sample]

theorem SameIn.arrayUsages (same : field.SameIn first second) (placed : field.Placed) :
    field.arrayUsages first = field.arrayUsages second := by
  refine List.filterMap_congr ?_
  intro unit among
  have inside := placed.unit_inside (List.mem_range.mp among)
  have element : Bits.unsigned first (field.offset + unit * field.unitSize) field.unitSize =
      Bits.unsigned second (field.offset + unit * field.unitSize) field.unitSize := by
    refine Bits.unsigned_congr (fun position low high => same position ⟨?_, ?_⟩)
    · exact Nat.le_trans (Nat.le_add_right _ _) low
    · exact Nat.lt_of_lt_of_le high inside
  rw [unitUsage?, unitUsage?, placed.unitOffset?_eq (List.mem_range.mp among), Option.bind_some,
    Option.bind_some, element]

theorem SameIn.usages (same : field.SameIn first second) (placed : field.Placed) :
    (field.sample first).usages first = (field.sample second).usages second := by
  have elements : (field.sample second).field.arrayUsages first =
      (field.sample second).field.arrayUsages second := same.arrayUsages placed
  rw [same.sample, Sample.usages, Sample.usages, elements]

end Field

namespace Layout

def ReadsBit (layout : Layout) (position : Nat) : Prop :=
  ∃ field, field ∈ layout.fields ∧ field.flags.isConstant = false ∧ field.HasBit position

def SameData (layout : Layout) (first second : List UInt8) : Prop :=
  ∀ position, layout.ReadsBit position → Bits.bit first position = Bits.bit second position

theorem sameData_iff {layout : Layout} {first second : List UInt8} :
    layout.SameData first second ↔
      ∀ field, field ∈ layout.fields → field.flags.isConstant = false →
        field.SameIn first second := by
  constructor
  · intro same field member data position has
    exact same position ⟨field, member, data, has⟩
  · intro same position ⟨field, member, data, has⟩
    exact same field member data position has

instance (layout : Layout) (first second : List UInt8) :
    Decidable (layout.SameData first second) :=
  decidable_of_iff _ sameData_iff.symm

namespace WellFormed

variable {layout : Layout} (wellFormed : layout.WellFormed)

include wellFormed

theorem apart {left right : Field} (leftIn : left ∈ layout.fields)
    (rightIn : right ∈ layout.fields) (different : left ≠ right) :
    left.Apart right := by
  have pairwise : layout.fields.Pairwise Field.Apart := wellFormed.ordered.imp Or.inl
  exact pairwise.forall leftIn rightIn different

theorem not_readsBit_constant {field : Field} (member : field ∈ layout.fields)
    (constant : field.flags.isConstant = true) {position : Nat} (has : field.HasBit position) :
    ¬layout.ReadsBit position := by
  intro ⟨other, present, data, reads⟩
  have different : field ≠ other := by
    intro same
    rw [same, data] at constant
    cases constant
  have apart := wellFormed.apart member present different
  unfold Field.HasBit at has reads
  unfold Field.Apart at apart
  omega

theorem not_readsBit_beyond {position : Nat} (beyond : layout.bits ≤ position) :
    ¬layout.ReadsBit position := by
  intro ⟨field, member, _data, reads⟩
  have inside := wellFormed.inside field member
  unfold Field.HasBit at reads
  omega

theorem sameData_take (payload : List UInt8) :
    layout.SameData payload (payload.take layout.bytes) := by
  intro position reads
  have inside : position < layout.bits := by
    by_contra beyond
    exact wellFormed.not_readsBit_beyond (Nat.le_of_not_lt beyond) reads
  refine (Bits.bit_take payload ?_).symm
  unfold bytes
  omega

end WellFormed

theorem sameData_append_zeros (layout : Layout) (payload : List UInt8) (count : Nat) :
    layout.SameData payload (payload ++ List.replicate count 0) :=
  fun position _reads => (Bits.bit_append_zeros payload count position).symm

end Layout

namespace Report

def dataSamples (report : Report) : List Sample :=
  report.samples.filter (fun sample => !sample.field.flags.isConstant)

section SameData

variable {layout : Layout} (wellFormed : layout.WellFormed) {left right : Report}
  (leftRead : left.ReadWith layout.fields) (rightRead : right.ReadWith layout.fields)
  (same : layout.SameData left.payload right.payload)

include leftRead rightRead same

theorem dataSamples_congr : left.dataSamples = right.dataSamples := by
  unfold dataSamples
  rw [leftRead, rightRead, List.filter_map, List.filter_map]
  refine List.map_congr_left ?_
  intro field chosen
  obtain ⟨member, data⟩ := List.mem_filter.mp chosen
  have isData : field.flags.isConstant = false := Bool.not_inj data
  exact (Layout.sameData_iff.mp same field member isData).sample

theorem lastValue_congr (page : Page) (wanted : Nat → Bool) :
    left.lastValue page wanted = right.lastValue page wanted := by
  rw [leftRead.lastValue, rightRead.lastValue]
  cases last : (layout.fields.filter
      (fun field => field.isDataOn page && wanted field.usage)).getLast? with
  | none => rfl
  | some field =>
      obtain ⟨member, chosen⟩ := List.mem_filter.mp (List.mem_of_getLast? last)
      simp only [Field.isDataOn, Bool.and_eq_true, Bool.not_eq_true'] at chosen
      exact congrArg Sample.value
        (Layout.sameData_iff.mp same field member chosen.1.1).sample

include wellFormed

theorem selected_congr (page : Page) : left.selected page = right.selected page := by
  rw [leftRead.selected, rightRead.selected]
  refine List.flatMap_congr ?_
  intro field chosen
  obtain ⟨member, dataOn⟩ := List.mem_filter.mp chosen
  rw [Field.isDataOn, Bool.and_eq_true, Bool.not_eq_true'] at dataOn
  exact (Layout.sameData_iff.mp same field member dataOn.1).usages (wellFormed.placed member)

theorem toKeyboard_congr : left.toKeyboard = right.toKeyboard := by
  rw [toKeyboard, selected_congr wellFormed leftRead rightRead same, toKeyboard]

theorem toMouse_congr (sensitivity : Nat) :
    left.toMouse sensitivity = right.toMouse sensitivity := by
  have value (usage : Desktop) : left.desktopValue usage = right.desktopValue usage :=
    lastValue_congr leftRead rightRead same _ _
  have pan : left.panValue = right.panValue := lastValue_congr leftRead rightRead same _ _
  rw [toMouse, selected_congr wellFormed leftRead rightRead same, value, value, value, pan,
    toMouse]

end SameData

end Report

namespace Interface

/-- Payloads that hold the same bits in all fields of data are read and composed alike. Bits behind
the report, bits of padding and bits that were left unused are in no field of data. Bytes behind
the report can be left out, and zeros can be added to a payload that is too short. -/
theorem padding_unread {id : InterfaceId} {bytes : List UInt8} {layout : Layout}
    (member : layout ∈ (ofDescriptor id bytes).layouts) (interfaceId : InterfaceId)
    (generation : Nat) :
    (∀ first second : List UInt8, first.length ≤ Limits.reportBytes →
      second.length ≤ Limits.reportBytes → layout.SameData first second →
      ∃ left right, layout.read interfaceId generation first = .ok left ∧
        layout.read interfaceId generation second = .ok right ∧
        left.dataSamples = right.dataSamples ∧ left.toKeyboard = right.toKeyboard ∧
        ∀ sensitivity, left.toMouse sensitivity = right.toMouse sensitivity) ∧
      (∀ position, layout.bits ≤ position ∨
          (∃ field, field ∈ layout.fields ∧ field.flags.isConstant = true ∧
            field.HasBit position) ∨
          (∀ field, field ∈ layout.fields → ¬field.HasBit position) →
        ¬layout.ReadsBit position) ∧
      ∀ payload count, layout.SameData payload (payload.take layout.bytes) ∧
        layout.SameData payload (payload ++ List.replicate count 0) := by
  have wellFormed : layout.WellFormed :=
    (wellFormed_ofItems id (Descriptor.shortItems bytes)).layouts layout member
  refine ⟨?_, ?_, ?_⟩
  · intro first second firstFits secondFits same
    obtain ⟨left, isLeft, leftPayload, leftRead⟩ :=
      layout.exists_read interfaceId generation firstFits
    obtain ⟨right, isRight, rightPayload, rightRead⟩ :=
      layout.exists_read interfaceId generation secondFits
    rw [← leftPayload, ← rightPayload] at same
    exact ⟨left, right, isLeft, isRight, Report.dataSamples_congr leftRead rightRead same,
      Report.toKeyboard_congr wellFormed leftRead rightRead same,
      Report.toMouse_congr wellFormed leftRead rightRead same⟩
  · intro position either
    rcases either with beyond | ⟨field, present, constant, has⟩ | unused
    · exact wellFormed.not_readsBit_beyond beyond
    · exact wellFormed.not_readsBit_constant present constant has
    · exact fun ⟨field, present, _data, reads⟩ => unused field present reads
  · intro payload count
    exact ⟨wellFormed.sameData_take payload, layout.sameData_append_zeros payload count⟩

/-- Two buttons in three bits, five bits of padding, and a byte of movement. -/
def padded : List UInt8 :=
  [0x05, 0x09, 0x19, 0x01, 0x29, 0x02, 0x75, 0x01, 0x95, 0x03, 0x81, 0x02,
    0x95, 0x05, 0x81, 0x03,
    0x05, 0x01, 0x09, 0x30, 0x75, 0x08, 0x95, 0x01, 0x81, 0x06]

theorem padded_declared : (ofDescriptor 0 padded).layouts ≠ [] := by decide

/-- All bits that are not data are set in the second payload, which is too long besides. -/
theorem padded_unread :
    ∃ layout, layout ∈ (ofDescriptor 0 padded).layouts ∧
      ∃ left right, layout.read 0 1 [0x02, 0x05] = .ok left ∧
        layout.read 0 1 [0xFE, 0x05, 0xFF] = .ok right ∧
        left.dataSamples = right.dataSamples ∧ left.toMouse 100 = right.toMouse 100 := by
  have same : (List.head _ padded_declared).SameData [0x02, 0x05] [0xFE, 0x05, 0xFF] := by decide
  obtain ⟨alike, _unread, _lengths⟩ := padding_unread (List.head_mem padded_declared) 0 1
  obtain ⟨left, right, isLeft, isRight, samples, _keyboard, mouse⟩ :=
    alike _ _ (by decide) (by decide) same
  exact ⟨_, List.head_mem padded_declared, left, right, isLeft, isRight, samples, mouse 100⟩

end Interface

end HidBridge
