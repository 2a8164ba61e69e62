/-
The usages that a report selects, in terms of the number that its payload stands for. An array
over several usages is read element by element. Any other field selects its usage if any of its
bits is set, as long as the field is narrow enough to be read.
-/

import HidBridge.Conversion.Compose
import HidBridge.Proofs.Bits
import HidBridge.Proofs.Conversion.Reading
import HidBridge.Proofs.Layout.Places
import Mathlib.Data.List.Basic

namespace HidBridge

namespace Field

def contents (field : Field) (payload : List UInt8) : Nat :=
  Words.ofBytes payload / 2 ^ field.offset % 2 ^ field.width

def element (field : Field) (payload : List UInt8) (unit : Nat) : Nat :=
  Words.ofBytes payload / 2 ^ (field.offset + unit * field.unitSize) % 2 ^ field.unitSize

def elements (field : Field) (payload : List UInt8) : List Nat :=
  (List.range field.unitCount).map (field.element payload)

/-- The usage that an element counts up to from the first one. -/
def usageAt (field : Field) (element : Nat) : Int :=
  field.usage + (element - field.logicalMinimum)

/-- The element is not zero, lies within the logical bounds, and stands for a usage that is not
past the last one. An upper bound below the lower one does not count. -/
def Selects (field : Field) (element : Nat) : Prop :=
  element ≠ 0 ∧ field.logicalMinimum ≤ element ∧
    (element ≤ field.logicalMaximum ∨ field.logicalMaximum < field.logicalMinimum) ∧
    field.usageAt element ≤ field.usageMaximum

instance (field : Field) (element : Nat) : Decidable (field.Selects element) :=
  inferInstanceAs (Decidable (_ ∧ _))

def pressed (field : Field) (payload : List UInt8) : List Nat :=
  if field.flags.isArray = true ∧ field.usage ≠ field.usageMaximum then
    ((field.elements payload).filter (fun element => decide (field.Selects element))).map
      (fun element => (field.usageAt element).toNat)
  else if field.contents payload ≠ 0 then [field.usage]
  else []

/-- Something is set in a field exactly if something is set in one of its units. -/
theorem contents_ne_zero_iff {field : Field}
    (width : field.width = field.unitSize * field.unitCount) (payload : List UInt8) :
    field.contents payload ≠ 0 ↔
      ∃ unit, unit < field.unitCount ∧ field.element payload unit ≠ 0 := by
  rw [contents, width, Words.mod_ne_zero_iff]
  simp only [element, Nat.pow_add, Nat.div_div_eq_div_mul]

theorem element_lt (field : Field) (payload : List UInt8) (unit : Nat) :
    field.element payload unit < 2 ^ field.unitSize :=
  Nat.mod_lt _ (Nat.two_pow_pos _)

theorem Selects.usageAt_nonneg {field : Field} {element : Nat}
    (selects : field.Selects element) : 0 ≤ field.usageAt element := by
  have above := selects.2.1
  unfold usageAt
  omega

theorem indexed?_eq (field : Field) (index : Nat) :
    field.indexed? index =
      if field.Selects index then some (field.usageAt index).toNat else none := by
  unfold indexed?
  dsimp only
  by_cases nothing : index = 0
  · rw [if_pos nothing, if_neg (fun selects => selects.1 nothing)]
  · rw [if_neg nothing]
    by_cases below : (index : Int) < field.logicalMinimum
    · rw [if_pos below, if_neg (fun selects => Int.not_le.mpr below selects.2.1)]
    · rw [if_neg below]
      by_cases above : field.logicalMinimum ≤ field.logicalMaximum ∧
          field.logicalMaximum < (index : Int)
      · have outside : ¬field.Selects index := by
          intro selects
          have bound := selects.2.2.1
          omega
        rw [if_pos above, if_neg outside]
      · rw [if_neg above]
        refine if_congr ?_ rfl rfl
        unfold Selects usageAt
        omega

theorem usages_whole {field : Field}
    (whole : ¬(field.flags.isArray = true ∧ field.usage ≠ field.usageMaximum))
    (payload : List UInt8) :
    (field.sample payload).usages payload =
      if field.width ≤ Limits.readableBits ∧ field.contents payload ≠ 0 then [field.usage]
      else [] := by
  have notIndexed : ¬(field.sample payload).selectsByIndex = true := by
    simp only [Sample.selectsByIndex, sample, isUsageArray, Bool.and_eq_true, bne_iff_ne]
    intro indexed
    exact whole ⟨indexed.1.1, indexed.2⟩
  rw [Sample.usages, if_neg notIndexed]
  exact if_congr (Bits.signed_ne_zero_iff payload field.offset field.width) rfl rfl

structure Placed (field : Field) : Prop where
  wellFormed : field.WellFormed
  inside : field.offset + field.width ≤ Limits.reportBits

namespace Placed

variable {field : Field} (placed : field.Placed)

include placed

theorem unit_inside {unit : Nat} (among : unit < field.unitCount) :
    field.offset + unit * field.unitSize + field.unitSize ≤ field.offset + field.width := by
  have within : (unit + 1) * field.unitSize ≤ field.unitCount * field.unitSize :=
    Nat.mul_le_mul_right _ among
  rw [Nat.succ_mul] at within
  rw [placed.wellFormed.width_eq, Nat.mul_comm field.unitSize, Nat.add_assoc]
  exact Nat.add_le_add_left within _

theorem unitOffset?_eq {unit : Nat} (among : unit < field.unitCount) :
    field.unitOffset? unit = some (field.offset + unit * field.unitSize) := by
  have last := placed.unit_inside among
  have inside := placed.inside
  have addressable := Limits.reportBits_lt_maxUInt16
  exact if_pos (by omega)

theorem arrayUsages_eq (readable : field.unitSize ≤ Limits.readableBits)
    (payload : List UInt8) :
    field.arrayUsages payload =
      ((field.elements payload).filter (fun element => decide (field.Selects element))).map
        (fun element => (field.usageAt element).toNat) := by
  have units : field.arrayUsages payload =
      (List.range field.unitCount).filterMap
        (fun unit => field.indexed? (field.element payload unit)) := by
    refine List.filterMap_congr ?_
    intro unit member
    rw [unitUsage?, placed.unitOffset?_eq (List.mem_range.mp member), Option.bind_some,
      Bits.unsigned_eq payload _ readable]
    rfl
  rw [units, ← List.filterMap_eq_map, List.filterMap_filter, elements, List.filterMap_map]
  refine List.filterMap_congr ?_
  intro unit _member
  rw [indexed?_eq]
  simp only [Function.comp_apply, decide_eq_true_eq]

theorem usages_sample (data : field.flags.isConstant = false)
    (narrow : field.flags.isArray = true → field.usage = field.usageMaximum →
      field.width ≤ Limits.readableBits) (payload : List UInt8) :
    (field.sample payload).usages payload = field.pressed payload := by
  have readable := placed.wellFormed.readable data
  unfold pressed
  by_cases indexed : field.flags.isArray = true ∧ field.usage ≠ field.usageMaximum
  · have byIndex : (field.sample payload).selectsByIndex = true := by
      simp only [Sample.selectsByIndex, sample, isUsageArray, data, indexed.1, Bool.not_false,
        Bool.and_self, Bool.true_and, bne_iff_ne]
      exact indexed.2
    rw [if_pos indexed, Sample.usages, if_pos byIndex]
    exact placed.arrayUsages_eq readable payload
  · have whole : field.width ≤ Limits.readableBits := by
      cases array : field.flags.isArray with
      | true =>
          by_cases single : field.usage = field.usageMaximum
          · exact narrow array single
          · exact absurd ⟨array, single⟩ indexed
      | false =>
          have single := placed.wellFormed.single data array
          rw [placed.wellFormed.width_eq, single.1, Nat.mul_one]
          exact readable
    rw [if_neg indexed, usages_whole indexed]
    exact if_congr (and_iff_right whole) rfl rfl

end Placed

end Field

theorem Layout.WellFormed.placed {layout : Layout} (wellFormed : layout.WellFormed)
    {field : Field} (member : field ∈ layout.fields) : field.Placed where
  wellFormed := wellFormed.fields field member
  inside := Nat.le_trans (wellFormed.inside field member) wellFormed.short

theorem Report.ReadWith.selected_eq {report : Report} {layout : Layout}
    (read : report.ReadWith layout.fields) (wellFormed : layout.WellFormed) (page : Page)
    (narrow : ∀ field, field ∈ layout.fields → field.isOn page = true →
      field.flags.isArray = true → field.usage = field.usageMaximum →
      field.width ≤ Limits.readableBits) :
    report.selected page =
      (layout.fields.filter (fun field => field.isDataOn page)).flatMap
        (fun field => field.pressed report.payload) := by
  rw [read.selected]
  refine List.flatMap_congr ?_
  intro field chosen
  obtain ⟨member, dataOn⟩ := List.mem_filter.mp chosen
  rw [Field.isDataOn, Bool.and_eq_true, Bool.not_eq_true'] at dataOn
  exact (wellFormed.placed member).usages_sample dataOn.1 (narrow field member dataOn.2) _

theorem Field.isOn_keyboard_iff (field : Field) :
    field.isOn .keyboard = true ↔ field.page = 0x07 :=
  field.isOn_iff rfl

namespace Interface

/-- The keyboard report for a payload presses exactly what the fields of data on the keyboard
page select in it, in the order of the fields and of their elements. No unit of any field is out
of reach, and no usage that an element selects is too large for sixteen bits. -/
theorem toKeyboard_eq_pressAll {id : InterfaceId} {bytes : List UInt8} {layout : Layout}
    (member : layout ∈ (ofDescriptor id bytes).layouts)
    (narrow : ∀ field, field ∈ layout.fields → field.page = 0x07 →
      field.flags.isArray = true → field.usage = field.usageMaximum →
      field.width ≤ Limits.readableBits)
    (interfaceId : InterfaceId) (generation : Nat) {payload : List UInt8}
    (fits : payload.length ≤ Limits.reportBytes) :
    (∃ report, layout.read interfaceId generation payload = .ok report ∧
      report.toKeyboard =
        Output.Keyboard.empty.pressAll
          ((layout.fields.filter
              (fun field => !field.flags.isConstant && field.page == 0x07)).flatMap
            (fun field => field.pressed payload))) ∧
      ∀ field, field ∈ layout.fields →
        (∀ unit, unit < field.unitCount →
          field.unitOffset? unit = some (field.offset + unit * field.unitSize)) ∧
        ∀ element, field.Selects element →
          0 ≤ field.usageAt element ∧ field.usageAt element ≤ Limits.maxUInt16 := by
  have wellFormed : layout.WellFormed :=
    (wellFormed_ofItems id (Descriptor.shortItems bytes)).layouts layout member
  refine ⟨?_, ?_⟩
  · obtain ⟨report, isRead, same, read⟩ := layout.exists_read interfaceId generation fits
    have selected := read.selected_eq wellFormed .keyboard
      (fun field present onPage => narrow field present (field.isOn_keyboard_iff.mp onPage))
    have onPage (field : Field) : field.isDataOn .keyboard =
        (!field.flags.isConstant && field.page == 0x07) := by
      rw [Field.isDataOn, Bool.eq_iff_iff, Bool.and_eq_true, Bool.and_eq_true,
        field.isOn_keyboard_iff, beq_iff_eq]
    refine ⟨report, isRead, ?_⟩
    rw [Report.toKeyboard, selected, same, List.filter_congr (fun field _member => onPage field)]
  · intro field present
    refine ⟨fun unit among => (wellFormed.placed present).unitOffset?_eq among, ?_⟩
    intro element selects
    obtain ⟨entry, own, declared, start, same⟩ := exists_entry_of_mem member present
    have small : field.usageMaximum < 0x10000 := by
      rw [same]
      exact (Descriptor.Entry.usage_lt declared).2
    have last := selects.2.2.2
    refine ⟨selects.usageAt_nonneg, ?_⟩
    show field.usageAt element ≤ (0xFFFF : Nat)
    omega

/-- Eight modifiers, and six elements of four bits each that count up from usage 4. -/
def nibbles : List UInt8 :=
  [0x05, 0x07, 0x19, 0xE0, 0x29, 0xE7, 0x15, 0x00, 0x25, 0x01, 0x75, 0x01, 0x95, 0x08, 0x81, 0x02,
    0x19, 0x04, 0x29, 0x10, 0x15, 0x01, 0x25, 0x0D, 0x75, 0x04, 0x95, 0x06, 0x81, 0x00]

theorem nibbles_declared : (ofDescriptor 0 nibbles).layouts ≠ [] := by decide

/-- One modifier and the elements 1, 14, 3 and 0. The second is above the logical bounds, and the
payload ends before the last two. -/
theorem nibbles_pressed :
    ∃ layout, layout ∈ (ofDescriptor 0 nibbles).layouts ∧
      ∃ report, layout.read 0 1 [0x02, 0xE1, 0x03] = .ok report ∧
        report.toKeyboard = { modifiers := 0x02, reserved := 0, held := [4, 6] } := by
  have fits : ([0x02, 0xE1, 0x03] : List UInt8).length ≤ Limits.reportBytes := by decide
  obtain ⟨⟨report, isRead, same⟩, _reach⟩ :=
    toKeyboard_eq_pressAll (List.head_mem nibbles_declared) (by decide) 0 1 fits
  exact ⟨_, List.head_mem nibbles_declared, report, isRead, same.trans (by decide)⟩

end Interface

end HidBridge
